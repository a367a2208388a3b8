import BevyIroh.Shared.Channels
import Mathlib.Data.Finset.Max
import Mathlib.Data.Set.Insert

/-!
# The pool of channel ids

`ChannelsIdsPool` hands out the smallest id that is not in use, and remembers which channel is the
default one: the first one taken while there was none.

The pool does not know which channels are open; that is kept elsewhere (a client looks at its slots,
the server at a table of its own).  `Agrees` says that pool and table fit together, and each operation
of the pool has a lemma saying what it does to the set of open channels the pool stands for.
-/

set_option autoImplicit false

namespace BevyIroh

/-- The ids available, and the default channel id. -/
structure ChannelsIdsPool where
  availableChannelIds : Finset ChannelId
  defaultChannel : Option ChannelId
deriving DecidableEq

namespace ChannelsIdsPool

def new : ChannelsIdsPool := { availableChannelIds := Finset.univ, defaultChannel := none }

/-- Allocates a new channel id from the pool; an error if no channel ids are available. -/
def takeId (self : ChannelsIdsPool) : Except ChannelCreationError ChannelId × ChannelsIdsPool :=
  if h : self.availableChannelIds.Nonempty then
    let channelId := self.availableChannelIds.min' h
    (.ok channelId,
      { availableChannelIds := self.availableChannelIds.erase channelId
        defaultChannel :=
          if self.defaultChannel.isNone then some channelId else self.defaultChannel })
  else (.error .maxChannelsCountReached, self)

/-- Releases a previously allocated channel id back to the pool. -/
def releaseId (self : ChannelsIdsPool) (channelId : ChannelId) : ChannelsIdsPool :=
  { availableChannelIds := insert channelId self.availableChannelIds
    defaultChannel :=
      if self.defaultChannel = some channelId then none else self.defaultChannel }

/-- Sets the default send channel id. -/
def setDefaultChannel (self : ChannelsIdsPool) (channelId : ChannelId) : ChannelsIdsPool :=
  { self with defaultChannel := some channelId }

/-! ## What the operations do -/

/-- A pool with an id left hands out the smallest one. -/
theorem takeId_ok {p p' : ChannelsIdsPool} {id : ChannelId} (h : p.takeId = (.ok id, p')) :
    IsLeast (p.availableChannelIds : Set ChannelId) id ∧
      p'.availableChannelIds = p.availableChannelIds.erase id ∧
      p'.defaultChannel = some (p.defaultChannel.getD id) := by
  by_cases hne : p.availableChannelIds.Nonempty
  · rw [takeId, dif_pos hne] at h
    obtain ⟨hid, rfl⟩ := Prod.mk.inj h
    obtain rfl := Except.ok.inj hid
    refine ⟨Finset.isLeast_min' _ hne, rfl, ?_⟩
    cases p.defaultChannel <;> rfl
  · rw [takeId, dif_neg hne] at h
    cases h

theorem takeId_error {p p' : ChannelsIdsPool} {e : ChannelCreationError}
    (h : p.takeId = (.error e, p')) :
    e = .maxChannelsCountReached ∧ p' = p ∧ p.availableChannelIds = ∅ := by
  by_cases hne : p.availableChannelIds.Nonempty
  · rw [takeId, dif_pos hne] at h
    cases h
  · rw [takeId, dif_neg hne] at h
    cases h
    exact ⟨rfl, rfl, Finset.not_nonempty_iff_eq_empty.1 hne⟩

/-- The first id of a new pool is 0, and it becomes the default one. -/
theorem takeId_new : new.takeId =
    (.ok 0, { availableChannelIds := Finset.univ.erase 0, defaultChannel := some 0 }) := by
  decide +kernel

/-- Releasing an id that was just taken undoes the taking, the default channel included. -/
theorem releaseId_of_takeId {p p' : ChannelsIdsPool} {id : ChannelId} (h : p.takeId = (.ok id, p'))
    (hd : p.defaultChannel ≠ some id) : p'.releaseId id = p := by
  obtain ⟨hid, hav, hdef⟩ := takeId_ok h
  have havail : insert id p'.availableChannelIds = p.availableChannelIds := by
    rw [hav, Finset.insert_erase (Finset.mem_coe.1 hid.1)]
  have hdefault : (if p'.defaultChannel = some id then none else p'.defaultChannel) =
      p.defaultChannel := by
    cases hp : p.defaultChannel with
    | none => simp [hdef, hp]
    | some d => simp [hdef, hp, show d ≠ id from fun h ↦ hd (h ▸ hp)]
  cases p
  rw [releaseId, havail, hdefault]

/-! ## Agreement with a table of open channels -/

/-- The ids in use are those of the open channels, and the default channel is an open one. -/
structure Agrees (p : ChannelsIdsPool) (opened : Set ChannelId) : Prop where
  available_iff : ∀ id, id ∈ p.availableChannelIds ↔ id ∉ opened
  default_mem : ∀ id, p.defaultChannel = some id → id ∈ opened

variable {p p' : ChannelsIdsPool} {opened : Set ChannelId} {id : ChannelId}

theorem agrees_new : new.Agrees ∅ where
  available_iff _ := by simp [new]
  default_mem _ h := by simp [new] at h

theorem Agrees.takeId_ok (hp : p.Agrees opened) (h : p.takeId = (.ok id, p')) :
    id ∉ opened ∧ p'.Agrees (insert id opened) := by
  obtain ⟨hid, hav, hdef⟩ := ChannelsIdsPool.takeId_ok h
  refine ⟨(hp.available_iff id).1 (Finset.mem_coe.1 hid.1), fun id' ↦ ?_, fun id' hd ↦ ?_⟩
  · rw [hav, Finset.mem_erase, hp.available_iff, Set.mem_insert_iff, not_or]
  · cases hp' : p.defaultChannel with
    | none =>
      obtain rfl : id = id' := by simpa [hdef, hp'] using hd
      exact Set.mem_insert _ _
    | some d =>
      obtain rfl : d = id' := by simpa [hdef, hp'] using hd
      exact Set.mem_insert_of_mem _ (hp.default_mem d hp')

/-- The pool is exhausted exactly when every channel is open. -/
theorem Agrees.takeId_eq_error_iff (hp : p.Agrees opened) {e : ChannelCreationError} :
    p.takeId.1 = .error e ↔ e = .maxChannelsCountReached ∧ opened = Set.univ := by
  have hempty : p.availableChannelIds = ∅ ↔ opened = Set.univ := by
    simp [Finset.eq_empty_iff_forall_notMem, hp.available_iff, Set.eq_univ_iff_forall]
  constructor
  · intro h
    obtain ⟨he, -, hav⟩ := takeId_error (Prod.ext h rfl : p.takeId = (.error e, p.takeId.2))
    exact ⟨he, hempty.1 hav⟩
  · rintro ⟨rfl, ho⟩
    rw [takeId, dif_neg]
    exact Finset.not_nonempty_iff_eq_empty.2 (hempty.2 ho)

theorem Agrees.releaseId (hp : p.Agrees opened) (id : ChannelId) :
    (p.releaseId id).Agrees (opened \ {id}) where
  available_iff id' := by
    rw [ChannelsIdsPool.releaseId, Finset.mem_insert, hp.available_iff, Set.mem_sdiff,
      Set.mem_singleton_iff]
    tauto
  default_mem id' h := by
    simp only [ChannelsIdsPool.releaseId] at h
    split_ifs at h with hd
    exact ⟨hp.default_mem id' h, fun he ↦ hd (he ▸ h)⟩

/-- An id that is taken and given back leaves pool and table in agreement. -/
theorem Agrees.releaseId_of_takeId (hp : p.Agrees opened) (h : p.takeId = (.ok id, p')) :
    (p'.releaseId id).Agrees opened := by
  rw [ChannelsIdsPool.releaseId_of_takeId h]
  · exact hp
  · exact fun hd ↦ (hp.takeId_ok h).1 (hp.default_mem id hd)

theorem Agrees.setDefaultChannel (hp : p.Agrees opened) (hid : id ∈ opened) :
    (p.setDefaultChannel id).Agrees opened where
  available_iff := hp.available_iff
  default_mem id' h := by
    obtain rfl : id = id' := by simpa [ChannelsIdsPool.setDefaultChannel] using h
    exact hid

end ChannelsIdsPool

end BevyIroh
