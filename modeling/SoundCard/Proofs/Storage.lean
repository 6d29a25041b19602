import SoundCard.Proofs.Success

/-!
# What a store keeps

A written file reads back, and what is read elsewhere stays the same. A new file never gets into the
way of a path, because a path that goes on from there had no directory to go on from before, so every
path leads where it led.
-/

set_option autoImplicit false

namespace SoundCard.Store

theorem find?_inside (store : Store) {way : List String} (below : way ≠ []) :
    store.find? (.inside way) =
      (store.entries.find? fun entry => entry.1 = way).map (·.2) := by
  cases way with
  | nil => exact absurd rfl below
  | cons name rest => rfl

theorem find?_insert (store : Store) {way : List String} (below : way ≠ []) (entry : Entry)
    (place : Place) :
    (store.insert way entry).find? place =
      if place = .inside way then some entry else store.find? place := by
  cases place with
  | outside => rfl
  | inside other =>
      by_cases root : other = []
      · subst root
        rw [if_neg fun same => below (Place.inside.inj same).symm]
        rfl
      · rw [find?_inside _ root, find?_inside _ root]
        by_cases same : other = way
        · subst same
          simp [insert]
        · rw [if_neg fun equal => same (Place.inside.inj equal), insert]
          simp only [List.find?_cons, List.find?_filter, Ne.symm same, decide_false]
          congr 2
          funext found
          by_cases here : found.1 = other
          · simp [here, same]
          · simp [here]

theorem ne_nil_of_find? {store : Store} {way : List String}
    (undirected : store.find? (.inside way) ≠ some .directory) : way ≠ [] := by
  rintro rfl
  exact undirected rfl

/-- A file in the place of no directory leaves every way as it is. -/
theorem walk_insert {store : Store} {way : List String} {content : List UInt8}
    (undirected : store.find? (.inside way) ≠ some .directory) {place target : Place}
    {names : List String} :
    (store.insert way (.file content)).walk place names = .ok target ↔
      store.walk place names = .ok target := by
  have below := ne_nil_of_find? undirected
  induction names generalizing place with
  | nil => exact Iff.rfl
  | cons name rest ih =>
      unfold walk
      rw [find?_insert store below]
      by_cases reached : place = .inside way
      · subst reached
        rw [if_pos rfl]
        cases found : store.find? (.inside way) with
        | none => exact iff_of_false nofun nofun
        | some entry =>
            cases entry with
            | directory => exact absurd found undirected
            | file other => exact iff_of_false nofun nofun
      · rw [if_neg reached]
        cases store.find? place with
        | none => exact Iff.rfl
        | some entry =>
            cases entry with
            | file other => exact Iff.rfl
            | directory =>
                dsimp only
                split
                · exact ih
                · split
                  · exact ih
                  · split
                    · exact Iff.rfl
                    · cases place with
                      | inside here => exact ih
                      | outside => exact Iff.rfl

theorem follow_insert {store : Store} {way : List String} {content : List UInt8}
    (undirected : store.find? (.inside way) ≠ some .directory) {path : String}
    {names : List String} {target : Place} :
    (store.insert way (.file content)).follow path names = .ok target ↔
      store.follow path names = .ok target := by
  unfold follow
  split
  · exact Iff.rfl
  · split
    · exact Iff.rfl
    · split
      · exact Iff.rfl
      · exact walk_insert undirected

theorem read_eq_ok {store : Store} {path : String} {content : List UInt8} :
    store.read path = .ok content ↔
      ∃ place, store.resolve path = .ok place ∧ store.find? place = some (.file content) ∧
        endsInSlash path = false := by
  constructor
  · intro accepted
    obtain ⟨place, resolved, stands⟩ := Except.exists_of_bind accepted
    refine ⟨place, resolved, ?_⟩
    cases found : store.find? place with
    | none =>
        rw [found] at stands
        cases stands
    | some entry =>
        rw [found] at stands
        cases entry with
        | directory => cases stands
        | file other =>
            cases slash : endsInSlash path with
            | true =>
                rw [slash] at stands
                cases stands
            | false =>
                rw [slash] at stands
                cases stands
                exact ⟨rfl, rfl⟩
  · rintro ⟨place, resolved, found, slash⟩
    unfold read
    rw [resolved]
    dsimp only [bind, Except.bind]
    rw [found, slash]
    rfl

/-- Where a file is written. -/
theorem exists_of_write {store after : Store} {path : String} {content : List UInt8}
    (written : store.write path content = .ok after) :
    ∃ way, endsInSlash path = false ∧ store.resolve path = .ok (.inside way) ∧
      store.find? (.inside way) ≠ some .directory ∧ after = store.insert way (.file content) := by
  unfold write at written
  cases slash : endsInSlash path with
  | true =>
      rw [slash, if_pos rfl] at written
      obtain ⟨place, _, refused⟩ := Except.exists_of_bind written
      cases refused
  | false =>
      rw [slash, if_neg Bool.false_ne_true] at written
      obtain ⟨place, resolved, placed⟩ := Except.exists_of_bind written
      cases place with
      | outside => cases placed
      | inside way =>
          dsimp only at placed
          by_cases directory : store.find? (.inside way) = some .directory
          · rw [if_pos directory] at placed
            cases placed
          · rw [if_neg directory] at placed
            cases placed
            exact ⟨way, rfl, resolved, directory, rfl⟩

/-- The paths lead to different places, if both lead anywhere. -/
def Apart (store : Store) (first second : String) : Prop :=
  ∀ place, store.resolve first = .ok place → store.resolve second ≠ .ok place

instance (store : Store) (first second : String) : Decidable (store.Apart first second) :=
  decidable_of_iff ((store.resolve first).toOption = none ∨
      (store.resolve first).toOption ≠ (store.resolve second).toOption) <| by
    unfold Apart
    cases store.resolve first <;> cases store.resolve second <;> simp [Except.toOption, eq_comm]

theorem Apart.symm {store : Store} {first second : String} (apart : store.Apart first second) :
    store.Apart second first :=
  fun place there here => apart place here there

section

variable {store after : Store} {path other : String} {content : List UInt8}

theorem resolve_write (written : store.write path content = .ok after) {place : Place} :
    after.resolve other = .ok place ↔ store.resolve other = .ok place := by
  obtain ⟨way, _, _, undirected, rfl⟩ := exists_of_write written
  exact follow_insert undirected

theorem Apart.write {first second : String} (apart : store.Apart first second)
    (written : store.write path content = .ok after) : after.Apart first second :=
  fun place here there =>
    apart place ((resolve_write written).mp here) ((resolve_write written).mp there)

theorem read_write_self (written : store.write path content = .ok after) :
    after.read path = .ok content := by
  obtain ⟨way, slash, resolved, undirected, same⟩ := exists_of_write written
  refine read_eq_ok.mpr ⟨.inside way, (resolve_write written).mpr resolved, ?_, slash⟩
  rw [same, find?_insert store (ne_nil_of_find? undirected), if_pos rfl]

/-- A file can be written at the path, whatever it holds. -/
def Usable (store : Store) (path : String) : Prop :=
  ∀ content, ∃ after, store.write path content = .ok after

theorem usable_iff :
    store.Usable path ↔ ∃ way, endsInSlash path = false ∧ store.resolve path = .ok (.inside way) ∧
      store.find? (.inside way) ≠ some .directory := by
  constructor
  · intro usable
    obtain ⟨_, written⟩ := usable []
    obtain ⟨way, slash, resolved, undirected, _⟩ := exists_of_write written
    exact ⟨way, slash, resolved, undirected⟩
  · rintro ⟨way, slash, resolved, undirected⟩ content
    refine ⟨store.insert way (.file content), ?_⟩
    unfold write
    rw [slash, if_neg Bool.false_ne_true, resolved]
    exact if_neg undirected

/-- A file at one path does not make another path unusable. -/
theorem Usable.write (usable : store.Usable other) (written : store.write path content = .ok after) :
    after.Usable other := by
  obtain ⟨way, slash, resolved, undirected⟩ := usable_iff.mp usable
  obtain ⟨_, _, _, place, same⟩ := exists_of_write written
  refine usable_iff.mpr ⟨way, slash, (resolve_write written).mpr resolved, ?_⟩
  rw [same, find?_insert store (ne_nil_of_find? place)]
  split
  · exact nofun
  · exact undirected

theorem read_write_apart (written : store.write path content = .ok after)
    (apart : store.Apart other path) {kept : List UInt8} (found : store.read other = .ok kept) :
    after.read other = .ok kept := by
  obtain ⟨way, _, resolved, undirected, same⟩ := exists_of_write written
  obtain ⟨place, otherResolved, stands, slash⟩ := read_eq_ok.mp found
  have elsewhere : place ≠ .inside way := by
    rintro rfl
    exact apart _ otherResolved resolved
  refine read_eq_ok.mpr ⟨place, (resolve_write written).mpr otherResolved, ?_, slash⟩
  rw [same, find?_insert store (ne_nil_of_find? undirected), if_neg elsewhere, stands]

end

end SoundCard.Store
