import BeanMetrics.Text.Digits
import BeanMetrics.Text.Utf8

/-!
Bytes written as a percent sign and two hexadecimal digits. A percent sign that no two digits follow
stands for itself.
-/

namespace BeanMetrics
namespace Text

/-- The byte that two hexadecimal digits denote. -/
def byte? (a b : Char) : Option UInt8 := (number? 16 [a, b]).map UInt8.ofNat

/-- The bytes that a text stands for. -/
def percentDecode : List Char → List UInt8
  | '%' :: a :: b :: rest =>
    match byte? a b with
    | some byte => byte :: percentDecode rest
    | none => encodeChar '%' ++ percentDecode (a :: b :: rest)
  | c :: rest => encodeChar c ++ percentDecode rest
  | [] => []
termination_by s => s.length

end Text
end BeanMetrics
