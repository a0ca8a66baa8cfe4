import MeterUplink.Settings

namespace MeterUplink.Modem

/-! The pace of a session with a modem. -/

/-- Delays and timeouts of a session, in milliseconds, and the terminator of its commands. -/
structure Timing where
  terminator : String
  commandDelay : Nat
  frameDelay : Nat
  pauseEvery : Nat
  pauseDelay : Nat
  readTimeout : Nat
  writeTimeout : Nat
deriving Repr, DecidableEq

def Timing.ofSettings (serial : SerialSettings) (transport : TransportSettings) : Timing where
  terminator := transport.terminator
  commandDelay := transport.commandDelayMs.toNat
  frameDelay := transport.frameDelayMs.toNat
  pauseEvery := transport.pauseEvery.toNat
  pauseDelay := transport.pauseDelayMs.toNat
  readTimeout := serial.timeoutMs.toNat
  writeTimeout := serial.writeTimeoutMs.toNat

end MeterUplink.Modem
