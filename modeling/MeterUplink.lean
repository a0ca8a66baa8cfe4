import MeterUplink.ByRegister
import MeterUplink.Cipher.Aes128
import MeterUplink.Cipher.Block
import MeterUplink.Cipher.Feedback
import MeterUplink.Cipher.Key
import MeterUplink.CommandLine
import MeterUplink.CommandLine.Arguments
import MeterUplink.CommandLine.LogFilter
import MeterUplink.Files
import MeterUplink.Files.Directory
import MeterUplink.Files.Path
import MeterUplink.Holder
import MeterUplink.Journal
import MeterUplink.Json
import MeterUplink.Main
import MeterUplink.Marker
import MeterUplink.Modem.Command
import MeterUplink.Modem.Exchange
import MeterUplink.Modem.Framing
import MeterUplink.Modem.Port
import MeterUplink.Modem.Timing
import MeterUplink.Modem.Transmission
import MeterUplink.Numeral.Hex
import MeterUplink.Numeral.Milliseconds
import MeterUplink.Numeral.Signed128
import MeterUplink.Pattern
import MeterUplink.Pattern.CharSet
import MeterUplink.Pattern.ClassGrammar
import MeterUplink.Pattern.Escape
import MeterUplink.Pattern.Fault
import MeterUplink.Pattern.Grammar
import MeterUplink.Pattern.Meaning
import MeterUplink.Pattern.Property
import MeterUplink.Pattern.Reader
import MeterUplink.Pattern.Written
import MeterUplink.Payload
import MeterUplink.Payload.Chunks
import MeterUplink.Payload.Encoding
import MeterUplink.Payload.Encryption
import MeterUplink.Payload.Mask
import MeterUplink.Proofs.ByRegister
import MeterUplink.Proofs.Cipher.Key
import MeterUplink.Proofs.Holder
import MeterUplink.Proofs.Holder.Acceptance
import MeterUplink.Proofs.Holder.Life
import MeterUplink.Proofs.Journal
import MeterUplink.Proofs.Journal.Alike
import MeterUplink.Proofs.Json.Edits
import MeterUplink.Proofs.Marker
import MeterUplink.Proofs.Marker.Spelling
import MeterUplink.Proofs.Modem.Clock
import MeterUplink.Proofs.Modem.Command
import MeterUplink.Proofs.Modem.CommandTime
import MeterUplink.Proofs.Modem.Elapsed
import MeterUplink.Proofs.Modem.ErrorReply
import MeterUplink.Proofs.Modem.FailureSafety
import MeterUplink.Proofs.Modem.Independence
import MeterUplink.Proofs.Modem.Pace
import MeterUplink.Proofs.Modem.Passive
import MeterUplink.Proofs.Modem.Plan
import MeterUplink.Proofs.Modem.Port
import MeterUplink.Proofs.Modem.Reception
import MeterUplink.Proofs.Modem.Rejection
import MeterUplink.Proofs.Modem.Session
import MeterUplink.Proofs.Modem.Spacing
import MeterUplink.Proofs.Numeral.Decimal
import MeterUplink.Proofs.Numeral.HexBytes
import MeterUplink.Proofs.Numeral.HexDigits
import MeterUplink.Proofs.Numeral.Spelling
import MeterUplink.Proofs.Payload.Characters
import MeterUplink.Proofs.Payload.Chunks
import MeterUplink.Proofs.Payload.Contents
import MeterUplink.Proofs.Payload.Encryption
import MeterUplink.Proofs.Payload.Faults
import MeterUplink.Proofs.Payload.Length
import MeterUplink.Proofs.Payload.Mask
import MeterUplink.Proofs.Payload.Partition
import MeterUplink.Proofs.Payload.Prefix
import MeterUplink.Proofs.Payload.Rendering
import MeterUplink.Proofs.Payload.Timestamp
import MeterUplink.Proofs.Reading.Decoding
import MeterUplink.Proofs.Reading.Extraction
import MeterUplink.Proofs.Reading.IntegerField
import MeterUplink.Proofs.Reading.Noise
import MeterUplink.Proofs.Reading.Order
import MeterUplink.Proofs.Reading.Scan
import MeterUplink.Proofs.Reading.WellFormed
import MeterUplink.Proofs.RegisterTable
import MeterUplink.Proofs.RegisterTable.Acceptance
import MeterUplink.Proofs.Run
import MeterUplink.Proofs.Settings.Decoding
import MeterUplink.Proofs.Text.AsciiBytes
import MeterUplink.Proofs.Text.Blank
import MeterUplink.Proofs.Text.Cutting
import MeterUplink.Proofs.Text.Feeds
import MeterUplink.Proofs.Text.Joining
import MeterUplink.Proofs.Text.Shown
import MeterUplink.Proofs.Text.Utf8
import MeterUplink.Proofs.Uplink.Decryption
import MeterUplink.Proofs.Uplink.Encryptable
import MeterUplink.Proofs.Uplink.Failures
import MeterUplink.Proofs.Uplink.FirstFrames
import MeterUplink.Proofs.Uplink.Frames
import MeterUplink.Proofs.Uplink.HexFrames
import MeterUplink.Proofs.Uplink.Secrecy
import MeterUplink.Proofs.Uplink.Stages
import MeterUplink.Proofs.Uplink.WireRoundTrip
import MeterUplink.Reading
import MeterUplink.Reading.Extraction
import MeterUplink.Reading.Report
import MeterUplink.Register
import MeterUplink.RegisterTable
import MeterUplink.Run
import MeterUplink.Settings
import MeterUplink.Settings.Decoding
import MeterUplink.Settings.Json
import MeterUplink.Settings.Validity
import MeterUplink.Settings.Yaml
import MeterUplink.Text.Blank
import MeterUplink.Text.CaseVariants
import MeterUplink.Text.Category
import MeterUplink.Text.Category.AlphabeticData
import MeterUplink.Text.Category.LetterData
import MeterUplink.Text.Category.MarkData
import MeterUplink.Text.Category.SymbolData
import MeterUplink.Text.CodeRange
import MeterUplink.Text.ControlSequence
import MeterUplink.Text.GraphicData
import MeterUplink.Text.Lines
import MeterUplink.Text.PropertyData
import MeterUplink.Text.Quoted
import MeterUplink.Text.Script
import MeterUplink.Text.ScriptData
import MeterUplink.Text.Search
import MeterUplink.Text.UpperCase
import MeterUplink.Text.UpperCaseData
import MeterUplink.Text.Utf8
import MeterUplink.Uplink
import MeterUplink.Yaml.Lexer
import MeterUplink.Yaml.Node
import MeterUplink.Yaml.Scalar.Block
import MeterUplink.Yaml.Scalar.Gap
import MeterUplink.Yaml.Scalar.Plain
import MeterUplink.Yaml.Scalar.Quoted
import MeterUplink.Yaml.Source
import MeterUplink.Yaml.Tag
import MeterUplink.Yaml.Token
import MeterUplink.Yaml.Uses
