namespace MeterUplink.Text

/-! Texts without what a terminal would obey: control sequences, and the control characters but
for the usual blanks. A sequence begins with the escape character, and how it ends depends on
the character behind that. A blank inside the numbers of a sequence is shown, and what follows
it is shown too, up to the next control character; the sequence goes on behind that. -/

/-- What has been read of a control sequence. -/
inductive ControlState where
  | outside
  /-- Behind the escape character. -/
  | escape
  | escapeIntermediate
  /-- In a sequence of parameters that ends with a letter. -/
  | sequence
  | sequenceParameters
  | sequenceIntermediate
  | malformedSequence
  /-- In front of the data that a device is sent. -/
  | device
  | deviceParameters
  | deviceIntermediate
  | malformedDevice
  | deviceData
  /-- In a string that an application, the system or nobody in particular is sent. -/
  | message
  /-- In a command of the operating system. -/
  | systemCommand
deriving Repr, DecidableEq

namespace ControlState

/-- Where the kind of sequence is chosen. -/
def afterEscape (c : Char) : ControlState :=
  if c = '[' then .sequence
  else if c = ']' then .systemCommand
  else if c = 'P' then .device
  else if c = 'X' ∨ c = '^' ∨ c = '_' then .message
  else if c.toNat < 0x30 then .escapeIntermediate
  else .outside

/-- The state behind a graphic ASCII character. -/
def afterGraphic (state : ControlState) (c : Char) : ControlState :=
  let intermediate := c.toNat < 0x30
  let parameter := c.toNat < 0x3C
  let beforeLetters := c.toNat < 0x40
  match state with
  | outside => outside
  | escape => afterEscape c
  | escapeIntermediate => if intermediate then state else outside
  | sequence =>
    if intermediate then sequenceIntermediate
    else if beforeLetters then sequenceParameters
    else outside
  | sequenceParameters =>
    if intermediate then sequenceIntermediate
    else if parameter then state
    else if beforeLetters then malformedSequence
    else outside
  | sequenceIntermediate =>
    if intermediate then state else if beforeLetters then malformedSequence else outside
  | malformedSequence => if beforeLetters then state else outside
  | device =>
    if intermediate then deviceIntermediate
    else if beforeLetters then deviceParameters
    else deviceData
  | deviceParameters =>
    if intermediate then deviceIntermediate
    else if parameter then state
    else if beforeLetters then malformedDevice
    else deviceData
  | deviceIntermediate =>
    if intermediate then state else if beforeLetters then malformedDevice else deviceData
  | malformedDevice | deviceData | message | systemCommand => state

/-- Whether a character beyond ASCII ends a state: one of its bytes is the end of a string. -/
def endsAtString (state : ControlState) (c : Char) : Bool :=
  match state with
  | malformedDevice | deviceData | message => (String.utf8EncodeChar c).contains 0x9C
  | _ => false

/-- The state behind a character. Two control characters cancel every sequence, and the bell ends
a command of the operating system. -/
def after (state : ControlState) (c : Char) : ControlState :=
  if c = '\x18' ∨ c = '\x1a' then outside
  else if c = '\x1b' then escape
  else if c.toNat < 0x20 then (if state = systemCommand ∧ c = '\x07' then outside else state)
  else if c = '\x7f' then state
  else if c.toNat < 0x80 then state.afterGraphic c
  else if state.endsAtString c then outside
  else state

/-- The control characters that are shown. -/
def isBlankControl (c : Char) : Bool := c == '\t' || c == '\n' || c == '\x0c' || c == '\r'

/-- Whether a character is shown outside of control sequences. -/
def isPlain (c : Char) : Bool := (0x20 ≤ c.toNat && c != '\x7f') || isBlankControl c

/-- Whether the state lets a character be shown. -/
def shows (state : ControlState) (c : Char) : Bool :=
  match state with
  | outside => isPlain c
  | escape | escapeIntermediate | sequence | sequenceParameters | sequenceIntermediate
  | malformedSequence => isBlankControl c
  | _ => false

end ControlState

/-- Goes on in a state; `showing` says that the last character was shown. -/
def plainTextFrom (state : ControlState) (showing : Bool) : List Char → List Char
  | [] => []
  | c :: rest =>
    if (if showing then ControlState.isPlain c else state.shows c) then
      c :: plainTextFrom (if c.toNat < 0x80 then state else .outside) true rest
    else plainTextFrom (state.after c) false rest

/-- The text without control sequences. -/
def plainText (text : String) : String :=
  String.ofList (plainTextFrom .outside false text.toList)

end MeterUplink.Text
