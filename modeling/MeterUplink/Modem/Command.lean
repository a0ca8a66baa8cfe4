import MeterUplink.Text.Search
import MeterUplink.Text.UpperCase
import MeterUplink.Text.Utf8

namespace MeterUplink.Modem

/-! The AT commands of an uplink session, and the replies to them. -/

inductive Command where
  /-- Asks for information on the channel. -/
  | getInfo
  /-- Resets the macro channel. -/
  | resetChannel
  /-- Sends one frame. -/
  | sendFrame (chunk : String)
deriving Repr, DecidableEq

namespace Command

def text : Command → String
  | getInfo => "AT$GI?"
  | resetChannel => "AT$RC"
  | sendFrame chunk => "AT$SF=" ++ chunk

/-- The bytes on the line: the text and the terminator. -/
def encode (command : Command) (terminator : String) : List UInt8 :=
  Text.utf8Bytes (command.text ++ terminator)

end Command

/-- A reply with the word ERROR, in any case of letters, rejects the command. -/
def isErrorReply (reply : String) : Bool :=
  Text.occursIn "ERROR".toList (Text.upper reply.toList)

end MeterUplink.Modem
