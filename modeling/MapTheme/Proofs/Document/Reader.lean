/-
  MapTheme.Proofs.Document.Reader — a document that is read from a text has distinct keys.

  A field is inserted among those read before, so a key that comes again gives its first place a new
  value. The claim holds for all three readers at once, by induction on the fuel that they share.
-/

import MapTheme.Document.Reader
import MapTheme.Proofs.Document.Distinct

namespace MapTheme.Document

/-- What the three readers give with some fuel, if the items and fields read before are distinct. -/
structure ReadsDistinct (fuel : Nat) : Prop where
  value : ∀ {depth s d r}, readValue? fuel depth s = some (d, r) → d.Distinct
  items : ∀ {found depth s items r}, (∀ d ∈ found, d.Distinct) → readItems? found fuel depth s = some (items, r) →
    ∀ d ∈ items, d.Distinct
  fields : ∀ {found depth s fields r}, found.Distinct → readFields? found fuel depth s = some (fields, r) →
    fields.Distinct

variable {fuel : Nat}

theorem distinct_of_readValue? (ih : ReadsDistinct fuel) {depth : Nat} {s r : List Char} {d : Document}
    (h : readValue? (fuel + 1) depth s = some (d, r)) : d.Distinct := by
  simp only [readValue?] at h
  split at h
  · cases h; exact distinct_null
  · cases h; exact distinct_bool true
  · cases h; exact distinct_bool false
  · obtain ⟨_, _, he⟩ := Option.map_eq_some_iff.mp h
    cases he; exact distinct_text _
  · split at h
    · cases h
    · split at h
      · cases h; simp
      · obtain ⟨_, hitems, he⟩ := Option.map_eq_some_iff.mp h
        cases he
        exact distinct_list.mpr (ih.items (by simp) hitems)
  · split at h
    · cases h
    · split at h
      · cases h; exact distinct_object.mpr .nil
      · obtain ⟨_, hfields, he⟩ := Option.map_eq_some_iff.mp h
        cases he
        exact distinct_object.mpr (ih.fields .nil hfields)
  · obtain ⟨_, _, he⟩ := Option.map_eq_some_iff.mp h
    cases he; exact distinct_number _

theorem distinct_of_readItems? (ih : ReadsDistinct fuel) {found items : List Document} {depth : Nat} {s r : List Char}
    (hfound : ∀ d ∈ found, d.Distinct) (h : readItems? found (fuel + 1) depth s = some (items, r)) :
    ∀ d ∈ items, d.Distinct := by
  simp only [readItems?] at h
  obtain ⟨⟨d, rest⟩, hd, h⟩ := Option.bind_eq_some_iff.mp h
  have hmore : ∀ e ∈ d :: found, e.Distinct := List.forall_mem_cons.mpr ⟨ih.value hd, hfound⟩
  split at h
  · exact ih.items hmore h
  · cases h
    exact fun e he => hmore e (List.mem_reverse.mp he)
  · cases h

theorem distinct_of_readFields? (ih : ReadsDistinct fuel) {found fields : Fields} {depth : Nat} {s r : List Char}
    (hfound : found.Distinct) (h : readFields? found (fuel + 1) depth s = some (fields, r)) : fields.Distinct := by
  simp only [readFields?] at h
  split at h
  · obtain ⟨⟨key, rest⟩, _, h⟩ := Option.bind_eq_some_iff.mp h
    dsimp only at h
    split at h
    · obtain ⟨⟨d, rest⟩, hd, h⟩ := Option.bind_eq_some_iff.mp h
      have hmore : (found.insert key d).Distinct := hfound.insert (ih.value hd)
      dsimp only at h
      split at h
      · exact ih.fields hmore h
      · cases h; exact hmore
      · cases h
    · cases h
  · cases h

theorem readsDistinct (fuel : Nat) : ReadsDistinct fuel := by
  induction fuel with
  | zero => constructor <;> intros <;> simp_all [readValue?, readItems?, readFields?]
  | succ fuel ih => exact ⟨distinct_of_readValue? ih, distinct_of_readItems? ih, distinct_of_readFields? ih⟩

/-- No text spells an object with a key twice. -/
theorem distinct_of_read? {s : String} {d : Document} (h : read? s = some d) : d.Distinct := by
  simp only [read?, readWithin?] at h
  split at h
  · rename_i hread
    split at h
    · cases h; exact (readsDistinct _).value hread
    · cases h
  · cases h

end MapTheme.Document
