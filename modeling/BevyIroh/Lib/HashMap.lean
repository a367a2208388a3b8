import Mathlib.Data.Finmap

/-!
# Hash maps and loops over them

A hash map is a finite map; the order in which a loop meets its entries is not part of it.  So every
loop takes the order it follows as an argument, a list of keys, and a statement about the loop
quantifies over all the orders of the map (`HashMap.IsOrder`).

`tryForEach` is the loop `for (k, v) in map.iter_mut()` whose body changes the entry, may leave the
loop by `?`, and collects a result for each entry.  An entry that made the loop end has been changed
by the body all the same, and the entries after it have not been looked at: `lookup_tryForEach`,
`tryForEach_ok` and `tryForEach_error` say what is known of each entry after the loop.

`updateEach` is the loop that goes through a list of keys with arguments and changes the entry of
each of them.
-/

set_option autoImplicit false

/-- A map with finitely many keys. -/
abbrev HashMap (κ ν : Type) := Finmap (fun _ : κ ↦ ν)

namespace HashMap

variable {κ ν β ε : Type} [DecidableEq κ]

/-- The keys of the map, each once: an order in which a loop may meet its entries. -/
structure IsOrder (m : HashMap κ ν) (order : List κ) : Prop where
  nodup : order.Nodup
  mem_iff : ∀ {k}, k ∈ order ↔ k ∈ m

omit [DecidableEq κ] in
theorem isOrder_empty : (∅ : HashMap κ ν).IsOrder [] :=
  ⟨.nil, fun {k} ↦ ⟨by rintro ⟨⟩, fun h ↦ absurd h Finmap.notMem_empty⟩⟩

/-- The entries as a loop in this order meets them. -/
def entriesIn (m : HashMap κ ν) (order : List κ) : List (κ × ν) :=
  order.filterMap fun k ↦ (m.lookup k).map (k, ·)

theorem mem_entriesIn {m : HashMap κ ν} {order : List κ} (h : m.IsOrder order) {k : κ} {v : ν} :
    (k, v) ∈ m.entriesIn order ↔ m.lookup k = some v := by
  simp only [entriesIn, List.mem_filterMap, Option.map_eq_some_iff, Prod.mk.injEq]
  constructor
  · rintro ⟨k, -, v, hv, rfl, rfl⟩
    exact hv
  · intro hv
    exact ⟨k, h.mem_iff.2 (Finmap.mem_of_lookup_eq_some hv), v, hv, rfl, rfl⟩

theorem entriesIn_keys_nodup {m : HashMap κ ν} {order : List κ} (h : order.Nodup) :
    ((m.entriesIn order).map Prod.fst).Nodup := by
  rw [entriesIn, List.map_filterMap]
  refine h.filterMap fun k k' b hk hk' ↦ ?_
  simp only [Option.map_map, Option.mem_def, Option.map_eq_some_iff, Function.comp_apply] at hk hk'
  obtain ⟨⟨-, -, rfl⟩, ⟨-, -, rfl⟩⟩ := hk, hk'
  rfl

theorem lookup_insert_eq_ite (m : HashMap κ ν) (k k' : κ) (v : ν) :
    (m.insert k v).lookup k' = if k' = k then some v else m.lookup k' := by
  split_ifs with h
  · rw [h, Finmap.lookup_insert]
  · exact Finmap.lookup_insert_of_ne m h

theorem lookup_erase_eq_ite (m : HashMap κ ν) (k k' : κ) :
    (m.erase k).lookup k' = if k' = k then none else m.lookup k' := by
  split_ifs with h
  · rw [h, Finmap.lookup_erase]
  · exact Finmap.lookup_erase_ne h

/-! ## Maps with the same keys -/

/-- The two maps have the same keys, and the entries of each key are related. -/
def Pointwise (R : ν → ν → Prop) (m m' : HashMap κ ν) : Prop :=
  ∀ k, Option.Rel R (m.lookup k) (m'.lookup k)

section Pointwise

variable {R R' R'' : ν → ν → Prop} {m m' m'' : HashMap κ ν} {k : κ}

theorem Pointwise.mem_iff (h : Pointwise R m m') : k ∈ m' ↔ k ∈ m := by
  rw [← Finmap.lookup_isSome, ← Finmap.lookup_isSome]
  have hk := h k
  revert hk
  generalize m.lookup k = o, m'.lookup k = o'
  rintro (_ | _) <;> simp

theorem Pointwise.lookup_right (h : Pointwise R m m') {v' : ν} (hv : m'.lookup k = some v') :
    ∃ v, m.lookup k = some v ∧ R v v' := by
  have hk := h k
  rw [hv] at hk
  cases hm : m.lookup k with
  | none => rw [hm] at hk; cases hk
  | some v => rw [hm] at hk; cases hk with | some hR => exact ⟨v, rfl, hR⟩

theorem Pointwise.lookup_left (h : Pointwise R m m') {v : ν} (hv : m.lookup k = some v) :
    ∃ v', m'.lookup k = some v' ∧ R v v' := by
  have hk := h k
  rw [hv] at hk
  cases hm : m'.lookup k with
  | none => rw [hm] at hk; cases hk
  | some v' => rw [hm] at hk; cases hk with | some hR => exact ⟨v', rfl, hR⟩

theorem Pointwise.of_lookup (hmem : ∀ {k}, k ∈ m' → k ∈ m)
    (h : ∀ {k v}, m.lookup k = some v → ∃ v', m'.lookup k = some v' ∧ R v v') :
    Pointwise R m m' := by
  intro k
  cases hv : m.lookup k with
  | none =>
    have hm' : m'.lookup k = none :=
      Finmap.lookup_eq_none.2 fun hk ↦ Finmap.lookup_eq_none.1 hv (hmem hk)
    rw [hm']
    exact .none
  | some v =>
    obtain ⟨v', hv', hR⟩ := h hv
    rw [hv']
    exact .some hR

theorem Pointwise.rfl (hR : ∀ a, R a a) : Pointwise R m m :=
  .of_lookup id fun hv ↦ ⟨_, hv, hR _⟩

theorem Pointwise.comp (h : Pointwise R m m') (h' : Pointwise R' m' m'')
    (hR : ∀ {a b c}, R a b → R' b c → R'' a c) : Pointwise R'' m m'' := by
  refine .of_lookup (fun hk ↦ h.mem_iff.1 (h'.mem_iff.1 hk)) fun hv ↦ ?_
  obtain ⟨v', hv', hab⟩ := h.lookup_left hv
  obtain ⟨v'', hv'', hbc⟩ := h'.lookup_left hv'
  exact ⟨v'', hv'', hR hab hbc⟩

theorem Pointwise.mono (h : Pointwise R m m') (hR : ∀ {a b}, R a b → R' a b) : Pointwise R' m m' :=
  .of_lookup h.mem_iff.1 fun hv ↦ (h.lookup_left hv).imp fun _ hv' ↦ hv'.imp_right hR

end Pointwise

/-! ## The number of entries -/

/-- How many entries the map has. -/
def size (m : HashMap κ ν) : ℕ := m.keys.card

section size

variable {m m' : HashMap κ ν} {k : κ} {v : ν}

omit [DecidableEq κ] in
theorem size_congr (h : ∀ k, k ∈ m' ↔ k ∈ m) : m'.size = m.size := by
  have hkeys : m'.keys = m.keys := Finset.ext fun k ↦ by rw [Finmap.mem_keys, Finmap.mem_keys, h]
  rw [size, size, hkeys]

theorem size_insert_of_notMem (hk : k ∉ m) : size (m.insert k v) = m.size + 1 := by
  have hkeys : (m.insert k v).keys = Insert.insert k m.keys := Finset.ext fun j ↦ by
    rw [Finmap.mem_keys, Finmap.mem_insert, Finset.mem_insert, Finmap.mem_keys]
  rw [size, size, hkeys, Finset.card_insert_of_notMem (by rwa [Finmap.mem_keys])]

theorem size_erase_of_mem (hk : k ∈ m) : size (m.erase k) + 1 = m.size := by
  have hkeys : (m.erase k).keys = m.keys.erase k := Finset.ext fun j ↦ by
    rw [Finmap.mem_keys, Finmap.mem_erase, Finset.mem_erase, Finmap.mem_keys]
  rw [size, size, hkeys, Finset.card_erase_add_one (by rwa [Finmap.mem_keys])]

theorem size_eq_zero_iff : m.size = 0 ↔ m = ∅ := by
  rw [size, Finset.card_eq_zero]
  constructor
  · intro h
    refine Finmap.ext_lookup fun k ↦ ?_
    rw [Finmap.lookup_empty, Finmap.lookup_eq_none, ← Finmap.mem_keys, h]
    exact Finset.notMem_empty k
  · rintro rfl
    rfl

theorem eq_empty_of_forall_notMem (h : ∀ k, k ∉ m) : m = ∅ :=
  size_eq_zero_iff.1 (Finset.card_eq_zero.2
    (Finset.eq_empty_of_forall_notMem fun k hk ↦ h k (Finmap.mem_keys.1 hk)))

end size

/-! ## Loops over given keys -/

/-- The entry of `k`, if there is one, is changed. -/
def modify (m : HashMap κ ν) (k : κ) (f : ν → ν) : HashMap κ ν :=
  match m.lookup k with
  | none => m
  | some v => m.insert k (f v)

theorem lookup_modify (m : HashMap κ ν) (k k' : κ) (f : ν → ν) :
    (m.modify k f).lookup k' = if k' = k then (m.lookup k').map f else m.lookup k' := by
  rw [modify]
  cases hv : m.lookup k with
  | none =>
    split_ifs with h
    · rw [h, hv, Option.map_none]
    · rfl
  | some v =>
    rw [lookup_insert_eq_ite]
    split_ifs with h
    · rw [h, hv, Option.map_some]
    · rfl

theorem mem_modify {m : HashMap κ ν} {k k' : κ} {f : ν → ν} : k' ∈ m.modify k f ↔ k' ∈ m := by
  rw [← Finmap.lookup_isSome, ← Finmap.lookup_isSome, lookup_modify]
  split_ifs
  · rw [Option.isSome_map]
  · rfl

/-- For each `(k, b)` of the list in turn, the entry of `k` is changed by `f b`. -/
def updateEach (f : β → ν → ν) (l : List (κ × β)) (m : HashMap κ ν) : HashMap κ ν :=
  l.foldl (fun m x ↦ m.modify x.1 (f x.2)) m

section updateEach

variable {f : β → ν → ν} {l : List (κ × β)} {m : HashMap κ ν} {k : κ}

theorem lookup_updateEach_of_notMem (hk : k ∉ l.map Prod.fst) :
    (updateEach f l m).lookup k = m.lookup k := by
  induction l generalizing m with
  | nil => rfl
  | cons x l ih =>
    rw [List.map_cons, List.mem_cons, not_or] at hk
    rw [updateEach, List.foldl_cons, ← updateEach, ih hk.2, lookup_modify, if_neg hk.1]

theorem lookup_updateEach_of_mem (hl : (l.map Prod.fst).Nodup) {b : β} (hk : (k, b) ∈ l) :
    (updateEach f l m).lookup k = (m.lookup k).map (f b) := by
  induction l generalizing m with
  | nil => simp at hk
  | cons x l ih =>
    rw [List.map_cons, List.nodup_cons] at hl
    rw [updateEach, List.foldl_cons, ← updateEach]
    rcases List.mem_cons.1 hk with rfl | hk
    · rw [lookup_updateEach_of_notMem hl.1, lookup_modify, if_pos rfl]
    · have hne : k ≠ x.1 := fun h ↦ hl.1 (h ▸ List.mem_map_of_mem hk)
      rw [ih hl.2 hk, lookup_modify, if_neg hne]

/-- A relation that each update respects, whatever its argument, holds across all of them. -/
theorem pointwise_updateEach {R : ν → ν → Prop} (hrefl : ∀ v, R v v)
    (hstep : ∀ {v w} b, R v w → R v (f b w)) : Pointwise R m (updateEach f l m) := by
  suffices h : ∀ m', Pointwise R m m' → Pointwise R m (updateEach f l m') from h m (.rfl hrefl)
  induction l with
  | nil => exact fun m' hm' ↦ hm'
  | cons x l ih =>
    intro m' hm'
    refine ih _ fun k ↦ ?_
    have hk := hm' k
    rw [lookup_modify]
    split_ifs
    · cases hv : m'.lookup k with
      | none => rwa [hv] at hk
      | some w =>
        rw [hv] at hk
        cases hm : m.lookup k with
        | none => rw [hm] at hk; cases hk
        | some v => rw [hm] at hk; cases hk with | some hR => exact .some (hstep x.2 hR)
    · exact hk

theorem mem_updateEach : k ∈ updateEach f l m ↔ k ∈ m :=
  (pointwise_updateEach (R := fun _ _ ↦ True) (fun _ ↦ trivial) fun _ _ ↦ trivial).mem_iff

/-- Every entry is changed, in this order. -/
def forEach (f : ν → ν) (order : List κ) (m : HashMap κ ν) : HashMap κ ν :=
  updateEach (fun _ ↦ f) (order.map (·, ())) m

theorem lookup_forEach {g : ν → ν} {order : List κ} (h : m.IsOrder order) (k : κ) :
    (forEach g order m).lookup k = (m.lookup k).map g := by
  by_cases hk : k ∈ m
  · have hmem : (k, ()) ∈ order.map (·, ()) := List.mem_map.2 ⟨k, h.mem_iff.2 hk, rfl⟩
    refine lookup_updateEach_of_mem ?_ hmem
    rw [List.map_map]
    exact h.nodup.map fun _ _ heq ↦ heq
  · have hnone := Finmap.lookup_eq_none.2 hk
    have hmem : k ∉ forEach g order m := mt mem_updateEach.1 hk
    rw [hnone, Finmap.lookup_eq_none.2 hmem, Option.map_none]

end updateEach

/-! ## Loops that may be left early -/

/-- One more result.  An error comes with the results that were collected before it. -/
def collect (k : κ) (b : β) :
    Except (ε × HashMap κ β) (HashMap κ β) → Except (ε × HashMap κ β) (HashMap κ β)
  | .ok r => .ok (r.insert k b)
  | .error (e, r) => .error (e, r.insert k b)

/-- The body is run on each entry in turn.  The loop ends at the first error.  The results are
collected in a map. -/
def tryForEach (f : ν → Except ε β × ν) :
    List κ → HashMap κ ν → Except (ε × HashMap κ β) (HashMap κ β) × HashMap κ ν
  | [], m => (.ok ∅, m)
  | k :: ks, m =>
    match m.lookup k with
    | none => tryForEach f ks m
    | some v =>
      match f v with
      | (.error e, v') => (.error (e, ∅), m.insert k v')
      | (.ok b, v') =>
        let (r, m') := tryForEach f ks (m.insert k v')
        (collect k b r, m')

section tryForEach

variable {f : ν → Except ε β × ν} {ks : List κ} {m : HashMap κ ν} {k : κ} {v : ν}

theorem tryForEach_cons_none (h : m.lookup k = none) :
    tryForEach f (k :: ks) m = tryForEach f ks m := by
  rw [tryForEach, h]

theorem tryForEach_cons_error {e : ε} (h : m.lookup k = some v) (hf : (f v).1 = .error e) :
    tryForEach f (k :: ks) m = (.error (e, ∅), m.insert k (f v).2) := by
  obtain ⟨v', hfv⟩ : ∃ v', f v = (.error e, v') := ⟨(f v).2, Prod.ext hf rfl⟩
  simp only [tryForEach, h, hfv]

theorem tryForEach_cons_ok {b : β} (h : m.lookup k = some v) (hf : (f v).1 = .ok b) :
    tryForEach f (k :: ks) m =
      (collect k b (tryForEach f ks (m.insert k (f v).2)).1,
        (tryForEach f ks (m.insert k (f v).2)).2) := by
  obtain ⟨v', hfv⟩ : ∃ v', f v = (.ok b, v') := ⟨(f v).2, Prod.ext hf rfl⟩
  simp only [tryForEach, h, hfv]

/-- Entries the loop does not meet stay as they are. -/
theorem lookup_tryForEach_of_notMem (hk : k ∉ ks) :
    (tryForEach f ks m).2.lookup k = m.lookup k := by
  induction ks generalizing m with
  | nil => rfl
  | cons k' ks ih =>
    obtain ⟨hne, hks⟩ : k ≠ k' ∧ k ∉ ks := by simpa using hk
    cases hv : m.lookup k' with
    | none => rw [tryForEach_cons_none hv, ih hks]
    | some v =>
      cases hf : (f v).1 with
      | error e => rw [tryForEach_cons_error hv hf, Finmap.lookup_insert_of_ne m hne]
      | ok b => rw [tryForEach_cons_ok hv hf, ih hks, Finmap.lookup_insert_of_ne m hne]

/-- Whatever the outcome, an entry either is as before or has been changed by the body once. -/
theorem lookup_tryForEach (hks : ks.Nodup) (k : κ) :
    (tryForEach f ks m).2.lookup k = m.lookup k ∨
      ∃ v, m.lookup k = some v ∧ (tryForEach f ks m).2.lookup k = some (f v).2 := by
  induction ks generalizing m with
  | nil => exact .inl rfl
  | cons k' ks ih =>
    obtain ⟨hk', hks⟩ := List.nodup_cons.1 hks
    cases hv : m.lookup k' with
    | none =>
      rw [tryForEach_cons_none hv]
      exact ih hks
    | some v =>
      by_cases hk : k = k'
      · subst hk
        refine .inr ⟨v, hv, ?_⟩
        cases hf : (f v).1 with
        | error e => rw [tryForEach_cons_error hv hf, Finmap.lookup_insert]
        | ok b =>
          rw [tryForEach_cons_ok hv hf, lookup_tryForEach_of_notMem hk', Finmap.lookup_insert]
      · have hins : (m.insert k' (f v).2).lookup k = m.lookup k := Finmap.lookup_insert_of_ne m hk
        cases hf : (f v).1 with
        | error e =>
          rw [tryForEach_cons_error hv hf]
          exact .inl hins
        | ok b =>
          rw [tryForEach_cons_ok hv hf, ← hins]
          exact ih hks

/-- The loop keeps the keys, and each entry is as before or has been changed by the body once. -/
theorem pointwise_tryForEach (hks : ks.Nodup) :
    Pointwise (fun v v' ↦ v' = v ∨ v' = (f v).2) m (tryForEach f ks m).2 := by
  refine .of_lookup (fun {k} hk ↦ ?_) fun {k v} hv ↦ ?_
  · rw [← Finmap.lookup_isSome] at hk ⊢
    rcases lookup_tryForEach (f := f) (m := m) hks k with h | ⟨v, hv, -⟩
    · rwa [h] at hk
    · rw [hv]
      rfl
  · rcases lookup_tryForEach (f := f) (m := m) hks k with h | ⟨w, hw, h⟩
    · exact ⟨v, h.trans hv, .inl rfl⟩
    · obtain rfl : w = v := by simpa [hv] using hw.symm
      exact ⟨_, h, .inr rfl⟩

/-- **A loop that came to its end** ran the body with success on every entry it met. -/
theorem tryForEach_ok {r : HashMap κ β} (hks : ks.Nodup) (h : (tryForEach f ks m).1 = .ok r)
    (hk : k ∈ ks) (hv : m.lookup k = some v) :
    ∃ b, (f v).1 = .ok b ∧ r.lookup k = some b ∧
      (tryForEach f ks m).2.lookup k = some (f v).2 := by
  induction ks generalizing m r with
  | nil => simp at hk
  | cons k' ks ih =>
    obtain ⟨hk', hks⟩ := List.nodup_cons.1 hks
    cases hv' : m.lookup k' with
    | none =>
      rw [tryForEach_cons_none hv'] at h ⊢
      refine ih hks h ?_ hv
      rcases List.mem_cons.1 hk with rfl | hk
      · simp [hv'] at hv
      · exact hk
    | some v' =>
      cases hf : (f v').1 with
      | error e => simp [tryForEach_cons_error hv' hf] at h
      | ok b =>
        rw [tryForEach_cons_ok hv' hf] at h ⊢
        cases hr : (tryForEach f ks (m.insert k' (f v').2)).1 with
        | error e => simp [hr, collect] at h
        | ok r' =>
          obtain rfl : Finmap.insert k' b r' = r := by simpa [hr, collect] using h
          rcases List.mem_cons.1 hk with rfl | hk
          · obtain rfl : v' = v := by simpa [hv'] using hv
            refine ⟨b, hf, Finmap.lookup_insert _, ?_⟩
            rw [lookup_tryForEach_of_notMem hk', Finmap.lookup_insert]
          · have hne : k ≠ k' := fun h ↦ hk' (h ▸ hk)
            have hins : (m.insert k' (f v').2).lookup k = some v := by
              rw [Finmap.lookup_insert_of_ne m hne, hv]
            obtain ⟨c, hc, hlook, hm⟩ := ih hks hr hk hins
            exact ⟨c, hc, by rw [Finmap.lookup_insert_of_ne _ hne, hlook], hm⟩

/-- Results are collected for the entries of the map only. -/
theorem mem_of_mem_tryForEach_ok {r : HashMap κ β} (h : (tryForEach f ks m).1 = .ok r)
    (hk : k ∈ r) : k ∈ ks ∧ k ∈ m := by
  induction ks generalizing m r with
  | nil =>
    obtain rfl : ∅ = r := by simpa [tryForEach] using h
    exact absurd hk Finmap.notMem_empty
  | cons k' ks ih =>
    cases hv' : m.lookup k' with
    | none =>
      rw [tryForEach_cons_none hv'] at h
      exact (ih h hk).imp_left (List.mem_cons_of_mem _)
    | some v' =>
      have hk' : k' ∈ m := Finmap.mem_of_lookup_eq_some hv'
      cases hf : (f v').1 with
      | error e => simp [tryForEach_cons_error hv' hf] at h
      | ok b =>
        rw [tryForEach_cons_ok hv' hf] at h
        cases hr : (tryForEach f ks (m.insert k' (f v').2)).1 with
        | error e => simp [hr, collect] at h
        | ok r' =>
          obtain rfl : Finmap.insert k' b r' = r := by simpa [hr, collect] using h
          rcases (Finmap.mem_insert).1 hk with rfl | hk
          · exact ⟨List.mem_cons_self, hk'⟩
          · obtain ⟨hks, hm⟩ := ih hr hk
            refine ⟨List.mem_cons_of_mem _ hks, ?_⟩
            rcases (Finmap.mem_insert).1 hm with rfl | hm
            · exact hk'
            · exact hm

/-- **A loop that was left** met an entry on which the body failed, and has changed it. -/
theorem tryForEach_error {e : ε} {r : HashMap κ β} (hks : ks.Nodup)
    (h : (tryForEach f ks m).1 = .error (e, r)) :
    ∃ k ∈ ks, ∃ v, m.lookup k = some v ∧ (f v).1 = .error e ∧
      (tryForEach f ks m).2.lookup k = some (f v).2 := by
  induction ks generalizing m r with
  | nil => simp [tryForEach] at h
  | cons k' ks ih =>
    obtain ⟨hk', hks⟩ := List.nodup_cons.1 hks
    cases hv' : m.lookup k' with
    | none =>
      rw [tryForEach_cons_none hv'] at h ⊢
      obtain ⟨k, hk, hrest⟩ := ih hks h
      exact ⟨k, List.mem_cons_of_mem _ hk, hrest⟩
    | some v' =>
      cases hf : (f v').1 with
      | error e' =>
        rw [tryForEach_cons_error hv' hf] at h ⊢
        obtain ⟨rfl, -⟩ : e' = e ∧ ∅ = r := by simpa using h
        exact ⟨k', List.mem_cons_self, v', hv', hf, Finmap.lookup_insert _⟩
      | ok b =>
        rw [tryForEach_cons_ok hv' hf] at h ⊢
        cases hr : (tryForEach f ks (m.insert k' (f v').2)).1 with
        | ok r' => simp [hr, collect] at h
        | error er =>
          obtain ⟨rfl, -⟩ : er.1 = e ∧ er.2.insert k' b = r := by simpa [hr, collect] using h
          obtain ⟨k, hk, v, hv, hfv, hm⟩ := ih hks hr
          have hne : k ≠ k' := fun h ↦ hk' (h ▸ hk)
          rw [Finmap.lookup_insert_of_ne m hne] at hv
          exact ⟨k, List.mem_cons_of_mem _ hk, v, hv, hfv, hm⟩

end tryForEach

end HashMap
