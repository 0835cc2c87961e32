/-!
# Pieces of a text

A text is cut at every character that passes a test. `joined` puts the pieces together again:
`joined_pieces` says that nothing is lost where the test is for one character.
-/
namespace SealedChain.Text

/-- The pieces of a text between the characters that pass a test. -/
def pieces (isMark : Char → Bool) : List Char → List (List Char)
  | [] => [[]]
  | c :: rest =>
    if isMark c then [] :: pieces isMark rest
    else match pieces isMark rest with
      | [] => [[c]]
      | piece :: more => (c :: piece) :: more

def joined (mark : Char) : List (List Char) → List Char
  | [] => []
  | [cs] => cs
  | cs :: rest => cs ++ mark :: joined mark rest

theorem pieces_ne_nil (isMark : Char → Bool) (cs : List Char) : pieces isMark cs ≠ [] := by
  cases cs with
  | nil => simp [pieces]
  | cons c rest =>
    rw [pieces]
    split
    · simp
    · split <;> simp

theorem joined_pieces (mark : Char) (cs : List Char) :
    joined mark (pieces (· == mark) cs) = cs := by
  induction cs with
  | nil => rfl
  | cons c rest ih =>
    rw [pieces]
    have hne := pieces_ne_nil (· == mark) rest
    cases hp : pieces (· == mark) rest with
    | nil => exact absurd hp hne
    | cons piece more =>
      rw [hp] at ih
      split
      · rename_i h
        simp only [beq_iff_eq] at h
        subst h
        simp [joined, ih]
      · cases more <;> simp_all [joined]

end SealedChain.Text
