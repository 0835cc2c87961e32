import SealedChain.Client.Transport.Http
import SealedChain.Proofs.Text.Boundary

/-!
# Excerpts

A failure quotes the longest start of a body that fits a limit in bytes and ends between two
characters. It can be taken character by character, or be cut from the bytes of the body where the
way back from the limit comes to a boundary. Both give the same, and the way back is three bytes
long at most.
-/
namespace SealedChain.Http

/-- The excerpt of a body, cut from its bytes; none if there is no boundary or a character is cut. -/
def cutExcerpt? (body : String) : Option String :=
  if maxExcerpt < body.utf8ByteSize then
    (Utf8.boundaryFrom? body.toUTF8 maxExcerpt).bind (Utf8.truncate? body)
  else some body

theorem utf8ByteSize_ofList (cs : List Char) : (String.ofList cs).utf8ByteSize = byteLength cs := by
  induction cs with
  | nil => rfl
  | cons c cs ih =>
    rw [String.ofList_cons, String.utf8ByteSize_append, String.utf8ByteSize_singleton, ih]
    rfl

theorem byteLength_toList (s : String) : byteLength s.toList = s.utf8ByteSize := by
  rw [← utf8ByteSize_ofList, String.ofList_toList]

theorem byteLength_append (cs ds : List Char) :
    byteLength (cs ++ ds) = byteLength cs + byteLength ds := by
  rw [← utf8ByteSize_ofList, String.ofList_append, String.utf8ByteSize_append, utf8ByteSize_ofList,
    utf8ByteSize_ofList]

variable {limit : Nat} {cs : List Char}

theorem prefix_takeBytes {ds : List Char} (h : ds <+: cs) (hfits : byteLength ds ≤ limit) :
    ds <+: takeBytes limit cs := by
  induction ds generalizing limit cs with
  | nil => exact List.nil_prefix
  | cons d ds ih =>
    obtain ⟨rest, rfl⟩ := h
    have hd : d.utf8Size + byteLength ds ≤ limit := hfits
    rw [List.cons_append, takeBytes, if_pos (Nat.le_of_add_right_le hd), List.prefix_cons_inj]
    exact ih ⟨rest, rfl⟩ (Nat.le_sub_of_add_le' hd)

theorem takeBytes_of_fits (h : byteLength cs ≤ limit) : takeBytes limit cs = cs :=
  (takeBytes_initial limit cs).eq_of_length_le (prefix_takeBytes (List.prefix_refl cs) h).length_le

theorem lt_byteLength_takeBytes (h : limit < byteLength cs) :
    limit < byteLength (takeBytes limit cs) + 4 := by
  induction cs generalizing limit with
  | nil => exact absurd h (Nat.not_lt_zero limit)
  | cons c cs ih =>
    have hc := c.utf8Size_le_four
    have hlength : byteLength (c :: cs) = c.utf8Size + byteLength cs := rfl
    rw [takeBytes]
    split
    · rename_i hfits
      have hleft : limit - c.utf8Size < byteLength cs := by omega
      have hrest := ih hleft
      simp only [byteLength]
      omega
    · simp only [byteLength]
      omega

theorem toList_excerpt (body : String) : (excerpt body).toList = takeBytes 256 body.toList :=
  String.toList_ofList

theorem excerpt_initial (body : String) : (excerpt body).toList <+: body.toList := by
  rw [toList_excerpt]
  exact takeBytes_initial 256 body.toList

theorem utf8ByteSize_excerpt_le (body : String) : (excerpt body).utf8ByteSize ≤ 256 := by
  rw [← byteLength_toList, toList_excerpt]
  exact byteLength_takeBytes 256 body.toList

theorem prefix_excerpt {body start : String} (h : start.toList <+: body.toList)
    (hfits : start.utf8ByteSize ≤ 256) : start.toList <+: (excerpt body).toList := by
  rw [toList_excerpt]
  exact prefix_takeBytes h (byteLength_toList start ▸ hfits)

/-- The way back from the limit comes to the end of the excerpt. -/
theorem boundaryFrom?_excerpt (body : String) :
    Utf8.boundaryFrom? body.toUTF8 256 = some (excerpt body).utf8ByteSize := by
  obtain ⟨e, hfound, hlast⟩ := Utf8.exists_boundaryFrom body.toUTF8 256
  have hcut : Utf8.isBoundary body.toUTF8 (excerpt body).utf8ByteSize = true :=
    Utf8.isBoundary_iff.mpr ⟨_, excerpt_initial body, rfl⟩
  obtain ⟨start, hstart, rfl⟩ := Utf8.isBoundary_iff.mp hlast.boundary
  have hle : start.utf8ByteSize ≤ (excerpt body).utf8ByteSize := by
    obtain ⟨rest, hrest⟩ := prefix_excerpt hstart hlast.le
    rw [← byteLength_toList, ← byteLength_toList, ← hrest, byteLength_append]
    exact Nat.le_add_right _ _
  rw [hfound, Nat.le_antisymm hle (hlast.le_of_boundary hcut (utf8ByteSize_excerpt_le body))]

theorem excerpt_of_fits {body : String} (h : body.utf8ByteSize ≤ 256) : excerpt body = body := by
  rw [← String.toList_inj, toList_excerpt, takeBytes_of_fits (byteLength_toList body ▸ h)]

theorem cutExcerpt?_eq (body : String) : cutExcerpt? body = some (excerpt body) := by
  unfold cutExcerpt?
  split
  · rw [maxExcerpt, boundaryFrom?_excerpt, Option.bind_some,
      Utf8.truncate?_of_prefix (excerpt_initial body)]
  · rename_i hfits
    rw [excerpt_of_fits (Nat.not_lt.mp hfits)]

/-- The excerpt of a body is its longest start that ends between two characters and has at most 256
bytes. Cutting it from the bytes finds that place and cuts no character. -/
theorem excerpt_longest (body : String) :
    let cut := excerpt body
    (cut.toList <+: body.toList ∧ cut.utf8ByteSize ≤ 256 ∧ ∀ start : String,
      start.toList <+: body.toList → start.utf8ByteSize ≤ 256 → start.toList <+: cut.toList) ∧
    (body.utf8ByteSize ≤ 256 → cut = body) ∧
    (256 < body.utf8ByteSize → 253 ≤ cut.utf8ByteSize) ∧
    (∀ i, Utf8.isBoundary body.toUTF8 i = true ↔
      ∃ start : String, start.toList <+: body.toList ∧ start.utf8ByteSize = i) ∧
    (∀ i, ∃ e ≤ i, Utf8.boundaryFrom? body.toUTF8 i = some e) ∧
    Utf8.boundaryFrom? body.toUTF8 256 = some cut.utf8ByteSize ∧
    cutExcerpt? body = some cut := by
  intro cut
  refine ⟨⟨excerpt_initial body, utf8ByteSize_excerpt_le body, fun start => prefix_excerpt⟩,
    excerpt_of_fits, fun hlong => ?_, fun i => Utf8.isBoundary_iff, fun i => ?_,
    boundaryFrom?_excerpt body, cutExcerpt?_eq body⟩
  · have hwaste : 256 < byteLength cut.toList + 4 := by
      rw [toList_excerpt]
      exact lt_byteLength_takeBytes (byteLength_toList body ▸ hlong)
    rw [byteLength_toList] at hwaste
    omega
  · obtain ⟨e, hfound, hlast⟩ := Utf8.exists_boundaryFrom body.toUTF8 i
    exact ⟨e, hlast.le, hfound⟩

example : byteLength (takeBytes 256 (List.replicate 86 '€')) = 255 := by
  decide +kernel

end SealedChain.Http
