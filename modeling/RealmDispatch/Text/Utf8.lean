/-!
# Showing bytes as text

A device can stop taking bytes in the middle of a character. The text of its
bytes then ends in the replacement character, which stands for the part of a
character that was taken.
-/
namespace RealmDispatch.Utf8

/-- The text of the first `n` bytes, or of as few bytes less as there have to be. -/
def longest (bytes : List UInt8) : Nat → String × Nat
  | 0 => ("", 0)
  | n + 1 =>
      match String.fromUTF8? ⟨(bytes.take (n + 1)).toArray⟩ with
      | some text => (text, n + 1)
      | none => longest bytes n

/-- The text of bytes that are the beginning of a text. -/
def shown (bytes : List UInt8) : String :=
  let (text, read) := longest bytes bytes.length
  if read < bytes.length then text ++ "\ufffd" else text

end RealmDispatch.Utf8
