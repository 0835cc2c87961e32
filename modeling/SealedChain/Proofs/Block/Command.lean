import SealedChain.Proofs.Block.Codec
import SealedChain.Proofs.Json.Word
import SealedChain.Proofs.Node.Demand

/-!
# Parameters of a block command

The parameter lists that stand for a command are those of two or three items that begin with two
truth values and have a hash, null or nothing in the third place. Several lists stand for one
command; the one that is written for it is their normal form. A command is read back from what is
written for it, so no two commands are written alike.
-/
namespace SealedChain.BlockCommand

/-- A parameter list stands for a command. -/
structure Denotes (ps : List Json) (c : BlockCommand) : Prop where
  atLeast : 2 ≤ ps.length
  atMost : ps.length ≤ 3
  createEmpty : ps[0]? = some (.bool c.createEmpty)
  finalize : ps[1]? = some (.bool c.finalize)
  parent : Node.Optional (Json.word? 32) ps[2]? c.parent

/-- The list that is written for the command that a list stands for. -/
def normalize (ps : List Json) : Except ParamsError (List Json) := (ofParams ps).map params

variable {ps : List Json} {c c' : BlockCommand}

theorem ofParams_eq_ok_iff : ofParams ps = .ok c ↔ Denotes ps c := by
  rw [Node.ofParams_ok_iff]
  constructor
  · rintro ⟨rest, rfl, hcount, hparent⟩
    refine ⟨by simp, by simp; omega, rfl, rfl, ?_⟩
    rwa [List.head?_eq_getElem?] at hparent
  · intro h
    obtain ⟨-, hatMost, hfirst, hsecond, hparent⟩ := h
    rcases ps with _ | ⟨first, _ | ⟨second, rest⟩⟩
    · cases hfirst
    · cases hsecond
    · obtain rfl := Option.some.inj hfirst
      obtain rfl := Option.some.inj hsecond
      simp only [List.length_cons] at hatMost
      refine ⟨rest, rfl, by omega, ?_⟩
      rwa [List.head?_eq_getElem?]

theorem rejected_iff : (∃ e, ofParams ps = .error e) ↔ ∀ c, ¬ Denotes ps c := by
  simp only [← ofParams_eq_ok_iff]
  cases ofParams ps <;> simp

theorem ofParams_normalize (ps : List Json) : (normalize ps).bind ofParams = ofParams ps := by
  rw [normalize]
  cases ofParams ps with
  | error e => rfl
  | ok c => exact ofParams_params c

theorem normalize_normalize (ps : List Json) : (normalize ps).bind normalize = normalize ps := by
  rw [normalize]
  cases ofParams ps with
  | error e => rfl
  | ok c =>
    have hread : normalize c.params = .ok c.params := by
      rw [normalize, ofParams_params]
      rfl
    exact hread

theorem params_inj : c.params = c'.params ↔ c = c' := by
  refine ⟨fun h => ?_, congrArg params⟩
  have hread := congrArg ofParams h
  rw [ofParams_params, ofParams_params] at hread
  exact Except.ok.inj hread

/-- Lists have one normal form exactly if they stand for one command, or are refused alike. -/
theorem normalize_inj {qs : List Json} :
    normalize ps = normalize qs ↔ ofParams ps = ofParams qs := by
  refine ⟨fun h => ?_, fun h => by rw [normalize, normalize, h]⟩
  rw [← ofParams_normalize ps, ← ofParams_normalize qs, h]

structure Reading (ps : List Json) : Prop where
  accepted : ∀ c, ofParams ps = .ok c ↔ Denotes ps c
  refused : (∃ e, ofParams ps = .error e) ↔ ∀ c, ¬ Denotes ps c
  kept : (normalize ps).bind ofParams = ofParams ps
  idempotent : (normalize ps).bind normalize = normalize ps
  same : ∀ qs, normalize ps = normalize qs ↔ ofParams ps = ofParams qs

theorem reading (ps : List Json) : Reading ps where
  accepted _ := ofParams_eq_ok_iff
  refused := rejected_iff
  kept := ofParams_normalize ps
  idempotent := normalize_normalize ps
  same _ := normalize_inj

/-- Lists are read as `Denotes` says, with a hash spelled in the third place. A command is read back
from what is written for it, so no two are written alike, and a null parent may be left out. -/
theorem params_read :
    (∀ ps, Reading ps) ∧
    (∀ (v : Json) (hash : Hash), v.word? 32 = some hash ↔ Json.Spells hash v) ∧
    (∀ c : BlockCommand, ofParams c.params = .ok c) ∧
    (∀ c c' : BlockCommand, c.params = c'.params ↔ c = c') ∧
    ∀ first second, ofParams [first, second, .null] = ofParams [first, second] :=
  ⟨reading, fun _ _ => Json.word?_eq_some_iff, ofParams_params, fun _ _ => params_inj,
    fun _ _ => rfl⟩

end SealedChain.BlockCommand
