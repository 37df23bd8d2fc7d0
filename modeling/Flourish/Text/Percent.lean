/-
This file writes text for a place in an address, where most octets need a percent escape.
-/

import Flourish.Text.Utf8
import Flourish.Text.Quoted

namespace Flourish.Text

/-- Letters that stand for themselves in every part of an address. -/
def isUnreserved (letter : Letter) : Bool :=
  letter.isAlphanum || letter = '_' || letter = '.' || letter = '-' || letter = '~'

/-- An octet is escaped unless it is an unreserved letter. -/
def percentOctet (octet : UInt8) : Text :=
  let letter := Letter.ofNat octet.toNat
  if isUnreserved letter then [letter]
  else .of '%' :: (hexadecimal 2 octet.toNat).map Letter.toUpper

/-- A text as it stands in an address, if it can be written at all. -/
def percentEncoded (text : Text) : Except EncodingFault Text :=
  (encoded text).map fun octets => octets.flatMap percentOctet

end Flourish.Text
