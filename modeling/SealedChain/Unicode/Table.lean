import SealedChain.Text.Digits
import SealedChain.Text.Pieces

/-!
# Tables of characters

A table says something of characters by their codes. It is written as rows of spans with a blank
between them: `41-5a` are the codes from the first to the last, `100-12e/2` is every second one, and
behind a colon stand the values of a span. All numbers are hexadecimal. A span that is found holds
the code that was looked for (`contains_of_find?`).
-/
namespace SealedChain.Unicode

structure Span where
  first : Nat
  last : Nat
  step : Nat := 1
  values : List Nat := []
  deriving DecidableEq, Repr

namespace Span

def contains (s : Span) (code : Nat) : Bool :=
  s.first ≤ code && code ≤ s.last && (code - s.first) % s.step == 0

/-- What stands before a mark and what stands behind it. -/
def cut (mark : Char) (cs : List Char) : List Char × Option (List Char) :=
  (cs.takeWhile (· != mark), ((cs.dropWhile (· != mark)).tail?))

def ofText? (cs : List Char) : Option Span := do
  let (codes, values) := cut ':' cs
  let (codes, step) := cut '/' codes
  let (first, last) := cut '-' codes
  let values := (values.map (Text.pieces (· == ','))).getD []
  return {
    first := ← Digits.value? 16 first
    last := ← Digits.value? 16 (last.getD first)
    step := ← Digits.value? 16 (step.getD ['1'])
    values := ← values.mapM (Digits.value? 16) }

end Span

/-- Spans in the order of their first codes, none of which begins inside another. -/
abbrev Table := Array Span

namespace Table

def ofRows (rows : List String) : Table :=
  (rows.flatMap fun row =>
    (Text.pieces (· == ' ') row.toList).filterMap Span.ofText?).toArray

/-- Of the spans at the places from `low` up to `high`, the last that begins at a code or before. -/
def search (t : Table) (code low high : Nat) : Option Span :=
  if low < high then
    let middle := low + (high - low) / 2
    match t[middle]? with
    | none => none
    | some span =>
      if code < span.first then t.search code low middle
      else match t.search code (middle + 1) high with
        | none => some span
        | later => later
  else none
termination_by high - low

def find? (t : Table) (c : Char) : Option Span :=
  (t.search c.toNat 0 t.size).filter (·.contains c.toNat)

def has (t : Table) (c : Char) : Bool := (t.find? c).isSome

theorem contains_of_find? {t : Table} {c : Char} {s : Span} (h : t.find? c = some s) :
    s.contains c.toNat := by
  unfold find? at h
  exact (Option.filter_eq_some_iff.1 h).2

end Table

end SealedChain.Unicode
