/-!
Contract: cutting text at a separator.

Owns: the pieces of a text between the occurrences of a character.

Does not own: trimming of the pieces, or any syntax made of them.
-/

namespace RemoteWrite.Text

/-- The pieces of a text between the occurrences of a separator. There is
always at least one. -/
def pieces (separator : Char) : List Char → List (List Char)
  | [] => [[]]
  | c :: rest =>
    if c = separator then [] :: pieces separator rest
    else
      match pieces separator rest with
      | [] => [[c]]
      | piece :: others => (c :: piece) :: others

end RemoteWrite.Text
