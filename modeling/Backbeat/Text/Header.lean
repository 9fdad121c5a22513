/-!
# Text in headers

The value of a header is a string of octets.  What can be sent as one excludes the control
characters but for the tab, and it arrives without the blanks around it; what can be read as plain
text is printable ASCII and the tab.
-/

namespace Backbeat.Text

def isHeaderText (text : String) : Bool :=
  text.toList.all fun character =>
    character == '\t' || (0x20 ≤ character.toNat && character.toNat != 0x7F)

/-- Whether a character may stand around the value of a header, of which it is then no part. -/
def isHeaderBlank (character : Char) : Bool :=
  character == ' ' || character == '\t'

/-- The value of a header as it arrives, without the blanks around it. -/
def headerValue (text : String) : String :=
  String.ofList ((text.toList.dropWhile isHeaderBlank).reverse.dropWhile isHeaderBlank).reverse

/-- Whether an octet of a header reads as plain text. -/
def isPlainOctet (octet : UInt8) : Bool :=
  octet == 0x09 || (0x20 ≤ octet && octet ≤ 0x7E)

/-- The plain text that octets of a header read as. -/
def plainText? (octets : List UInt8) : Option String :=
  if octets.all isPlainOctet then
    some (String.ofList (octets.map fun octet => Char.ofNat octet.toNat))
  else
    none

end Backbeat.Text
