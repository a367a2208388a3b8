import Mathlib.Data.List.Basic

/-!
# A ledger of arrivals

Values arrive under keys, wait in one queue, and are sorted into one buffer for each key, or reported
as lost.  From its buffer a value is taken, or it is cleared together with all others that are
buffered.  A ledger is the list of all arrivals, each with what became of it so far, so nothing in it
is ever lost or invented; what a program keeps of it (a queue, buffers, a list of reports) are the
views `waiting`, `buffered`, `taken`, `cleared` and `reports`.

`Ordered` is what the discipline of the queue and the buffers leaves behind.  With it each operation
has its effect on the views (`exists_buffer`, `exists_report`, `exists_take`, `clear`), and what was
taken under a key followed by what is buffered there is in the order of arrival
(`taken_append_buffered`).
-/

set_option autoImplicit false

/-- Two selections of a list, one after the other, if nothing of the second stands before anything of
the first. -/
theorem List.filterMap_append_filterMap {α β : Type} {f g : α → Option β} {l : List α}
    (h : l.Pairwise fun a b ↦ g a ≠ none → f b = none) (hfg : ∀ a, f a = none ∨ g a = none) :
    l.filterMap f ++ l.filterMap g = l.filterMap fun a ↦ (f a).or (g a) := by
  induction l with
  | nil => rfl
  | cons a l ih =>
    obtain ⟨ha, hl⟩ := List.pairwise_cons.1 h
    rw [List.filterMap_cons, List.filterMap_cons, List.filterMap_cons, ← ih hl]
    rcases hg : g a with _ | b
    · cases f a <;> rfl
    · have hnil : l.filterMap f = [] :=
        List.filterMap_eq_nil_iff.2 fun b hb ↦ ha b hb (by rw [hg]; exact Option.some_ne_none _)
      rw [(hfg a).resolve_right (by rw [hg]; exact Option.some_ne_none _), hnil]
      rfl

namespace Ledger

variable {κ α ε : Type}

/-- What became of an arrival. -/
inductive Fate (ε : Type) where
  /-- It is in the queue. -/
  | waiting
  /-- It is in the buffer of its key. -/
  | buffered
  | taken
  | cleared
  /-- It was dropped, and this was said about it. -/
  | reported (e : ε)
deriving DecidableEq, Repr

structure Entry (κ α ε : Type) where
  key : κ
  value : α
  fate : Fate ε
deriving DecidableEq, Repr

namespace Entry

def arrival (x : Entry κ α ε) : κ × α := (x.key, x.value)

def waiting : Entry κ α ε → Option (κ × α)
  | ⟨k, a, .waiting⟩ => some (k, a)
  | _ => none

def report : Entry κ α ε → Option (κ × ε)
  | ⟨k, _, .reported e⟩ => some (k, e)
  | _ => none

variable [DecidableEq κ]

def buffered (k : κ) : Entry κ α ε → Option α
  | ⟨k', a, .buffered⟩ => if k' = k then some a else none
  | _ => none

def taken (k : κ) : Entry κ α ε → Option α
  | ⟨k', a, .taken⟩ => if k' = k then some a else none
  | _ => none

def waitingFor (k : κ) : Entry κ α ε → Option α
  | ⟨k', a, .waiting⟩ => if k' = k then some a else none
  | _ => none

def cleared (k : κ) : Entry κ α ε → Option α
  | ⟨k', a, .cleared⟩ => if k' = k then some a else none
  | _ => none

/-- Neither dropped nor cleared, and not in the queue any more. -/
def kept (k : κ) (x : Entry κ α ε) : Option α := (x.taken k).or (x.buffered k)

end Entry

/-! ## Views -/

/-- All values that arrived, oldest first. -/
def arrivals (l : List (Entry κ α ε)) : List (κ × α) := l.map Entry.arrival

/-- The queue. -/
def waiting (l : List (Entry κ α ε)) : List (κ × α) := l.filterMap Entry.waiting

/-- What was reported, and about which key. -/
def reports (l : List (Entry κ α ε)) : List (κ × ε) := l.filterMap Entry.report

section views

variable [DecidableEq κ]

def buffered (l : List (Entry κ α ε)) (k : κ) : List α := l.filterMap (Entry.buffered k)

def taken (l : List (Entry κ α ε)) (k : κ) : List α := l.filterMap (Entry.taken k)

def cleared (l : List (Entry κ α ε)) (k : κ) : List α := l.filterMap (Entry.cleared k)

/-- The arrivals under `k` without those that were reported or cleared or are still in the queue. -/
def kept (l : List (Entry κ α ε)) (k : κ) : List α := l.filterMap (Entry.kept k)

/-- What is kept are values that arrived under this key, in their order. -/
theorem kept_sublist (l : List (Entry κ α ε)) (k : κ) :
    (kept l k).Sublist (((arrivals l).filter (·.1 = k)).map Prod.snd) := by
  induction l with
  | nil => exact .slnil
  | cons x l ih =>
    have harr : arrivals (x :: l) = x.arrival :: arrivals l := rfl
    rw [kept, List.filterMap_cons, ← kept, harr, List.filter_cons]
    obtain ⟨k', a, fate⟩ := x
    by_cases hk : k' = k
    · cases fate <;>
        simp only [Entry.kept, Entry.taken, Entry.buffered, Entry.arrival, hk, Option.or, if_true,
          decide_true, List.map_cons]
      case waiting | cleared | reported => exact ih.cons _
      all_goals exact ih.cons_cons _
    · cases fate <;> simpa [Entry.kept, Entry.taken, Entry.buffered, Entry.arrival, hk] using ih

end views

/-! ## The order of a ledger -/

/-- What may stand before what.  The queue is last, a clearing clears all that is buffered, and values
are taken in order under each key. -/
structure Before (x y : Entry κ α ε) : Prop where
  waiting : x.fate = .waiting → y.fate = .waiting
  cleared : x.fate = .buffered → y.fate ≠ .cleared
  taken : x.fate = .buffered → x.key = y.key → y.fate ≠ .taken

def Ordered (l : List (Entry κ α ε)) : Prop := l.Pairwise Before

theorem ordered_nil : Ordered ([] : List (Entry κ α ε)) := .nil

variable {l l₁ l₂ : List (Entry κ α ε)} {x x' : Entry κ α ε} {k : κ} {a : α} {e : ε}

/-- The parts of an ordered ledger around one entry. -/
theorem Ordered.around (h : Ordered (l₁ ++ x :: l₂)) :
    (∀ y ∈ l₁, Before y x) ∧ ∀ y ∈ l₂, Before x y := by
  obtain ⟨-, hcons, hcross⟩ := List.pairwise_append.1 h
  exact ⟨fun y hy ↦ hcross y hy x List.mem_cons_self, (List.pairwise_cons.1 hcons).1⟩

/-- One entry is replaced. -/
theorem Ordered.replace (h : Ordered (l₁ ++ x :: l₂)) (h₁ : ∀ y ∈ l₁, Before y x')
    (h₂ : ∀ y ∈ l₂, Before x' y) : Ordered (l₁ ++ x' :: l₂) := by
  obtain ⟨hl₁, hcons, hcross⟩ := List.pairwise_append.1 h
  refine List.pairwise_append.2 ⟨hl₁, List.pairwise_cons.2 ⟨h₂, (List.pairwise_cons.1 hcons).2⟩, ?_⟩
  intro y hy z hz
  rcases List.mem_cons.1 hz with rfl | hz
  · exact h₁ y hy
  · exact hcross y hy z (List.mem_cons_of_mem _ hz)

/-- A value arrives. -/
theorem Ordered.arrive (h : Ordered l) (k : κ) (a : α) : Ordered (l ++ [⟨k, a, .waiting⟩]) := by
  refine List.pairwise_append.2 ⟨h, List.pairwise_singleton _ _, fun y _ z hz ↦ ?_⟩
  obtain rfl := List.mem_singleton.1 hz
  exact ⟨fun _ ↦ rfl, fun _ ↦ (by rintro ⟨⟩), fun _ _ ↦ (by rintro ⟨⟩)⟩

theorem filterMap_around {β : Type} (f : Entry κ α ε → Option β) :
    (l₁ ++ x :: l₂).filterMap f = l₁.filterMap f ++ (f x).toList ++ l₂.filterMap f := by
  rw [List.filterMap_append, List.filterMap_cons]
  cases f x <;> simp

/-- A view that sees nothing of `x` and of what stands behind it gets at its end what it sees of the
entry that replaces it. -/
theorem filterMap_replace {β : Type} {f : Entry κ α ε → Option β} (hx : f x = none)
    (h₂ : ∀ y ∈ l₂, f y = none) :
    (l₁ ++ x' :: l₂).filterMap f = (l₁ ++ x :: l₂).filterMap f ++ (f x').toList := by
  rw [filterMap_around, filterMap_around, hx, List.filterMap_eq_nil_iff.2 h₂]
  simp

theorem filterMap_replace_same {β : Type} {f : Entry κ α ε → Option β} (hx : f x' = f x) :
    (l₁ ++ x' :: l₂).filterMap f = (l₁ ++ x :: l₂).filterMap f := by
  rw [filterMap_around, filterMap_around, hx]

theorem arrivals_replace (h : x'.arrival = x.arrival) :
    arrivals (l₁ ++ x' :: l₂) = arrivals (l₁ ++ x :: l₂) := by
  simp [arrivals, h]

/-! ## What the operations do to the views -/

/-- The first value of the queue leaves it. -/
theorem exists_first_waiting (h : Ordered l) {rest : List (κ × α)} (hw : waiting l = (k, a) :: rest) :
    ∃ l₁ l₂, l = l₁ ++ ⟨k, a, .waiting⟩ :: l₂ ∧ (∀ y ∈ l₁, y.fate ≠ .waiting) ∧
      (∀ y ∈ l₂, y.fate = .waiting) ∧ waiting l₂ = rest := by
  obtain ⟨l₁, x, l₂, rfl, h₁, hx, hrest⟩ := List.filterMap_eq_cons_iff.1 hw
  obtain ⟨k', a', f⟩ := x
  cases f <;> simp only [Entry.waiting, Option.some.injEq, Prod.mk.injEq, reduceCtorEq] at hx
  obtain ⟨rfl, rfl⟩ := hx
  refine ⟨l₁, l₂, rfl, fun y hy hf ↦ ?_, fun y hy ↦ (h.around.2 y hy).waiting rfl, hrest⟩
  have hnone := h₁ y hy
  obtain ⟨k', a', f⟩ := y
  obtain rfl : f = .waiting := hf
  simp [Entry.waiting] at hnone

/-- All that is buffered is cleared. -/
def clear (l : List (Entry κ α ε)) : List (Entry κ α ε) :=
  l.map fun x ↦ match x.fate with
    | .buffered => { x with fate := .cleared }
    | _ => x

theorem filterMap_clear {β : Type} {f g : Entry κ α ε → Option β} (hbuf : ∀ k a,
    f ⟨k, a, .cleared⟩ = g ⟨k, a, .buffered⟩) (hrest : ∀ x, x.fate ≠ .buffered → f x = g x) :
    (clear l).filterMap f = l.filterMap g := by
  rw [clear, List.filterMap_map]
  refine List.filterMap_congr fun x _ ↦ ?_
  obtain ⟨k, a, fate⟩ := x
  cases fate
  case buffered => exact hbuf k a
  all_goals exact hrest _ (by rintro ⟨⟩)

theorem arrivals_clear : arrivals (clear l) = arrivals l := by
  rw [arrivals, clear, List.map_map]
  refine List.map_congr_left fun x _ ↦ ?_
  obtain ⟨k, a, fate⟩ := x
  cases fate <;> rfl

theorem waiting_clear : waiting (clear l) = waiting l :=
  filterMap_clear (fun _ _ ↦ rfl) fun _ _ ↦ rfl

theorem reports_clear : reports (clear l) = reports l :=
  filterMap_clear (fun _ _ ↦ rfl) fun _ _ ↦ rfl

theorem Ordered.clear (h : Ordered l) : Ordered (Ledger.clear l) := by
  refine List.pairwise_map.2 (h.imp fun {x y} hxy ↦ ?_)
  obtain ⟨k₁, a₁, f₁⟩ := x
  obtain ⟨k₂, a₂, f₂⟩ := y
  refine ⟨?_, ?_, ?_⟩ <;> cases f₁ <;> first | (rintro ⟨⟩; done) | skip
  intro _
  cases f₂ <;> first | rfl | exact absurd (hxy.waiting rfl) (by rintro ⟨⟩)

variable [DecidableEq κ]

/-- **What was taken and what is buffered under a key** are the arrivals under it in their order, but
for those that were reported or cleared. -/
theorem Ordered.taken_append_buffered (h : Ordered l) (k : κ) :
    taken l k ++ buffered l k = kept l k := by
  refine List.filterMap_append_filterMap (h.imp fun {x y} hxy hx ↦ ?_) fun x ↦ ?_
  · obtain ⟨k₁, a₁, f₁⟩ := x
    obtain ⟨k₂, a₂, f₂⟩ := y
    cases f₁ <;> simp only [Entry.buffered, ne_eq, not_true_eq_false] at hx
    split_ifs at hx with hk₁
    · cases f₂ <;> simp only [Entry.taken]
      exact if_neg fun hk₂ ↦ hxy.taken rfl (hk₁.trans hk₂.symm) rfl
    · exact absurd rfl hx
  · obtain ⟨k', a, f⟩ := x
    cases f <;> simp [Entry.buffered, Entry.taken]

/-- What the views of a ledger show after the first value of the queue has found its place: in the
buffer of its key, or in the reports. -/
structure Settled (l : List (Entry κ α ε)) (k : κ) (a : α) (fate : Fate ε) (rest : List (κ × α))
    (l' : List (Entry κ α ε)) : Prop where
  ordered : Ordered l'
  arrivals : arrivals l' = Ledger.arrivals l
  waiting : waiting l' = rest
  buffered : ∀ j, buffered l' j = Ledger.buffered l j ++ (Entry.buffered j ⟨k, a, fate⟩).toList
  taken : taken l' = Ledger.taken l
  cleared : cleared l' = Ledger.cleared l
  reports : reports l' = Ledger.reports l ++ (Entry.report ⟨k, a, fate⟩).toList

theorem exists_settle (h : Ordered l) {rest : List (κ × α)} (hw : waiting l = (k, a) :: rest)
    {fate : Fate ε} (hf : fate = .buffered ∨ ∃ e, fate = .reported e) :
    ∃ l', Settled l k a fate rest l' := by
  obtain ⟨l₁, l₂, rfl, h₁, h₂, rfl⟩ := exists_first_waiting h hw
  refine ⟨l₁ ++ ⟨k, a, fate⟩ :: l₂, h.replace (fun y hy ↦ ?_) fun y hy ↦ ?_, arrivals_replace rfl, ?_,
    fun j ↦ filterMap_replace rfl fun y hy ↦ ?_, funext fun j ↦ filterMap_replace_same ?_,
    funext fun j ↦ filterMap_replace_same ?_, filterMap_replace rfl fun y hy ↦ ?_⟩
  · refine ⟨fun hwait ↦ absurd hwait (h₁ y hy), fun _ ↦ ?_, fun _ _ ↦ ?_⟩ <;>
      rcases hf with rfl | ⟨e, rfl⟩ <;> rintro ⟨⟩
  · refine ⟨fun _ ↦ h₂ y hy, fun _ ↦ ?_, fun _ _ ↦ ?_⟩ <;> rw [h₂ y hy] <;> rintro ⟨⟩
  · have hnil : Ledger.waiting l₁ = [] := List.filterMap_eq_nil_iff.2 fun y hy ↦ by
      have hne := h₁ y hy
      obtain ⟨k', a', f⟩ := y
      cases f <;> first | rfl | exact absurd rfl hne
    rw [Ledger.waiting, filterMap_around, ← Ledger.waiting, ← Ledger.waiting, hnil]
    rcases hf with rfl | ⟨e, rfl⟩ <;> rfl
  · obtain ⟨k', a', f⟩ := y
    obtain rfl : f = .waiting := h₂ _ hy
    rfl
  · rcases hf with rfl | ⟨e, rfl⟩ <;> rfl
  · rcases hf with rfl | ⟨e, rfl⟩ <;> rfl
  · obtain ⟨k', a', f⟩ := y
    obtain rfl : f = .waiting := h₂ _ hy
    rfl

/-- What the views show after the first value buffered under a key has been taken. -/
structure Took (l : List (Entry κ α ε)) (k : κ) (a : α) (rest : List α)
    (l' : List (Entry κ α ε)) : Prop where
  ordered : Ordered l'
  arrivals : arrivals l' = Ledger.arrivals l
  waiting : waiting l' = Ledger.waiting l
  buffered : ∀ j, buffered l' j = if j = k then rest else Ledger.buffered l j
  taken : ∀ j, taken l' j = Ledger.taken l j ++ if j = k then [a] else []
  cleared : cleared l' = Ledger.cleared l
  reports : reports l' = Ledger.reports l

theorem exists_take (h : Ordered l) {rest : List α} (hb : buffered l k = a :: rest) :
    ∃ l', Took l k a rest l' := by
  obtain ⟨l₁, x, l₂, rfl, h₁, hx, rfl⟩ := List.filterMap_eq_cons_iff.1 hb
  obtain ⟨k', a', f⟩ := x
  cases f <;> simp only [Entry.buffered, reduceCtorEq] at hx
  split_ifs at hx with hk
  obtain rfl := hk
  obtain rfl : a' = a := Option.some.inj hx
  refine ⟨l₁ ++ ⟨k', a', .taken⟩ :: l₂, h.replace (fun y hy ↦ ?_) fun y hy ↦ ?_, arrivals_replace rfl,
    filterMap_replace_same rfl, fun j ↦ ?_, fun j ↦ ?_, funext fun j ↦ filterMap_replace_same rfl,
    filterMap_replace_same rfl⟩
  · -- nothing buffered under this key stands before the first such value
    have hy' := h.around.1 y hy
    refine ⟨fun hwait ↦ absurd (hy'.waiting hwait) (by rintro ⟨⟩), fun _ ↦ (by rintro ⟨⟩), ?_⟩
    intro hbuf hkey
    have hnone := h₁ y hy
    obtain ⟨k'', a'', f⟩ := y
    obtain rfl : f = .buffered := hbuf
    obtain rfl : k'' = k' := hkey
    simp [Entry.buffered] at hnone
  · exact ⟨fun hwait ↦ (by cases hwait), fun hbuf ↦ (by cases hbuf), fun hbuf ↦ (by cases hbuf)⟩
  · split_ifs with hj
    · rw [hj, Ledger.buffered, filterMap_around, List.filterMap_eq_nil_iff.2 h₁]
      rfl
    · exact filterMap_replace_same (by simp [Entry.buffered, Ne.symm hj])
  · split_ifs with hj
    · refine (filterMap_replace (x := ⟨k', a', .buffered⟩) rfl fun y hy ↦ ?_).trans ?_
      · have hy' := h.around.2 y hy
        obtain ⟨k'', a'', f⟩ := y
        cases f <;> simp only [Entry.taken]
        exact if_neg fun hk ↦ hy'.taken rfl (hk.trans hj).symm rfl
      · simp [Entry.taken, hj, Ledger.taken]
    · rw [List.append_nil]
      exact filterMap_replace_same (by simp [Entry.taken, Ne.symm hj])

/-- The part of the queue under a key. -/
def waitingFor (l : List (Entry κ α ε)) (k : κ) : List α := l.filterMap (Entry.waitingFor k)

theorem waitingFor_eq (l : List (Entry κ α ε)) (k : κ) :
    waitingFor l k = ((waiting l).filter (·.1 = k)).map Prod.snd := by
  induction l with
  | nil => rfl
  | cons x l ih =>
    rw [waitingFor, waiting, List.filterMap_cons, List.filterMap_cons, ← waitingFor, ← waiting, ih]
    obtain ⟨k', a, fate⟩ := x
    cases fate with
    | waiting =>
      by_cases hk : k' = k
      · simp [Entry.waitingFor, Entry.waiting, hk]
      · simp [Entry.waitingFor, Entry.waiting, hk]
    | _ => rfl

/-- **Nothing is missing under a key** of which nothing was cleared or reported: what is kept, and then
what still waits, are all its arrivals. -/
theorem Ordered.kept_append_waitingFor (h : Ordered l) (hc : cleared l k = [])
    (hr : ∀ x ∈ reports l, x.1 ≠ k) :
    kept l k ++ waitingFor l k = ((arrivals l).filter (·.1 = k)).map Prod.snd := by
  have hboth : kept l k ++ waitingFor l k =
      l.filterMap fun x ↦ (x.kept k).or (x.waitingFor k) := by
    refine List.filterMap_append_filterMap (h.imp fun {x y} hxy hx ↦ ?_) fun x ↦ ?_
    · obtain ⟨k₁, a₁, f₁⟩ := x
      obtain ⟨k₂, a₂, f₂⟩ := y
      cases f₁ <;> simp only [Entry.waitingFor, ne_eq, not_true_eq_false] at hx
      obtain rfl : f₂ = .waiting := hxy.waiting rfl
      rfl
    · obtain ⟨k', a, fate⟩ := x
      cases fate <;> simp [Entry.kept, Entry.taken, Entry.buffered, Entry.waitingFor]
  rw [hboth, arrivals, List.filter_map, List.map_map, ← List.filterMap_eq_map,
    List.filterMap_filter]
  refine List.filterMap_congr fun x hx ↦ ?_
  have hclear := List.filterMap_eq_nil_iff.1 hc x hx
  have hreport := fun e he ↦ hr (x.key, e) (List.mem_filterMap.2 ⟨x, hx, he⟩)
  obtain ⟨k', a, fate⟩ := x
  by_cases hk : k' = k
  · subst hk
    cases fate with
    | cleared => simp [Entry.cleared] at hclear
    | reported e => exact absurd rfl (hreport e rfl)
    | _ => simp [Entry.kept, Entry.taken, Entry.buffered, Entry.waitingFor, Entry.arrival]
  · cases fate <;>
      simp [Entry.kept, Entry.taken, Entry.buffered, Entry.waitingFor, Entry.arrival, hk]

theorem taken_clear : taken (clear l) = taken l :=
  funext fun _ ↦ filterMap_clear (fun _ _ ↦ rfl) fun _ _ ↦ rfl

theorem buffered_clear (k : κ) : buffered (clear l) k = [] := by
  refine (filterMap_clear (g := fun _ ↦ none) (fun _ _ ↦ rfl) fun x hx ↦ ?_).trans (by simp)
  obtain ⟨k', a, fate⟩ := x
  cases fate <;> first | rfl | exact absurd rfl hx

theorem Ordered.cleared_clear (h : Ordered l) (k : κ) :
    cleared (Ledger.clear l) k = cleared l k ++ buffered l k := by
  refine (filterMap_clear (g := fun x ↦ (x.cleared k).or (x.buffered k)) (fun _ _ ↦ rfl)
    fun x hx ↦ ?_).trans (List.filterMap_append_filterMap (h.imp fun {x y} hxy hx ↦ ?_) fun x ↦ ?_).symm
  · obtain ⟨k', a, fate⟩ := x
    cases fate <;> first | exact absurd rfl hx | simp [Entry.cleared, Entry.buffered]
  · obtain ⟨k₁, a₁, f₁⟩ := x
    obtain ⟨k₂, a₂, f₂⟩ := y
    cases f₁ <;> simp only [Entry.buffered, ne_eq, not_true_eq_false] at hx
    cases f₂ <;> first | rfl | exact absurd rfl (hxy.cleared rfl)
  · obtain ⟨k', a, fate⟩ := x
    cases fate <;> simp [Entry.buffered, Entry.cleared]

end Ledger
