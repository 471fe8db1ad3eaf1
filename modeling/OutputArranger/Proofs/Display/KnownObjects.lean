import OutputArranger.Display.Client
import OutputArranger.Proofs.Session.Inventory

/-!
# What the client of a display knows

A compositor announces heads and modes and withdraws them again. It speaks only of what it has
announced and not withdrawn, and until then it does not use the same number again. A head that is
withdrawn leaves its modes behind, which are withdrawn one by one later, or never.

The client keeps the heads and the modes in two tables. Together they make up an inventory, and what
a message changes in it is what the queued events change in the inventory of a session.
-/

namespace OutputArranger

/-- The objects that a compositor has announced and not withdrawn. -/
structure Announced where
  heads : List HeadId
  modes : List ModeId

namespace Announced

def empty : Announced := ⟨[], []⟩

/-- What has been announced after one more message. -/
def after (a : Announced) : CompositorMessage → Announced
  | .newHead id => { a with heads := a.heads ++ [id] }
  | .head _ (.mode m) => { a with modes := a.modes ++ [m] }
  | .head id .finished => { a with heads := a.heads.filter (· ≠ id) }
  | .mode m .finished => { a with modes := a.modes.filter (· ≠ m) }
  | _ => a

/-- Whether a message is about what there is, and announces only what there is not. -/
def permits (a : Announced) : CompositorMessage → Bool
  | .newHead id => id ∉ a.heads
  | .head id (.mode m) => id ∈ a.heads && m ∉ a.modes
  | .head id _ => id ∈ a.heads
  | .mode m _ => m ∈ a.modes
  | _ => true

end Announced

namespace DisplayClient

def headIds (c : DisplayClient) : List HeadId := c.heads.map (·.id)

/-- The modes of one head. -/
def modesOf (c : DisplayClient) (id : HeadId) : List ModeId :=
  (c.modes.filter fun m => decide (m.owner = id)).map (·.id)

def inventory (c : DisplayClient) : Inventory := c.headIds.map fun id => (id, c.modesOf id)

theorem map_fst_inventory (c : DisplayClient) : c.inventory.map Prod.fst = c.headIds := by
  simp [inventory, Function.comp_def]

theorem inventory_congr {c d : DisplayClient} (hheads : d.heads = c.heads)
    (hmodes : d.modes = c.modes) : d.inventory = c.inventory := by
  simp only [inventory, headIds, modesOf, hheads, hmodes]

theorem mem_headIds_iff {c : DisplayClient} {id : HeadId} :
    id ∈ c.headIds ↔ (c.knownHead? id).isSome = true := by
  rw [knownHead?, List.find?_isSome, headIds, List.mem_map]
  simp only [decide_eq_true_eq]

/-- The client has an object for every head that there is, and for none but announced modes of such
heads. -/
structure Knows (c : DisplayClient) (a : Announced) : Prop where
  head : ∀ id, id ∈ c.headIds ↔ id ∈ a.heads
  mode : ∀ m ∈ c.modes, m.id ∈ a.modes
  owner : ∀ m ∈ c.modes, m.owner ∈ c.headIds
  distinct : (c.modes.map (·.id)).Nodup
  heard : ∀ id ∈ c.headIds, id ∉ c.givenBack

theorem Knows.mem_modesOf_iff {c : DisplayClient} {a : Announced} (h : c.Knows a) {id : HeadId}
    {m : ModeId} : m ∈ c.modesOf id ↔ ∃ k, c.knownMode? m = some k ∧ k.owner = id := by
  simp only [modesOf, List.mem_map, List.mem_filter, decide_eq_true_eq]
  constructor
  · rintro ⟨k, ⟨hk, howner⟩, rfl⟩
    exact ⟨k, find?_eq_some_of_mem h.distinct hk, howner⟩
  · rintro ⟨k, hk, howner⟩
    exact ⟨k, ⟨List.mem_of_find?_eq_some hk, howner⟩, of_decide_eq_true (List.find?_some hk :)⟩

/-- What one message makes of the client: some events are queued, and they say how the inventory has
changed. -/
structure Follows (c : DisplayClient) (a : Announced) (d : DisplayClient) : Prop where
  knows : d.Knows a
  told : ∃ events, d.events = c.events ++ events ∧
    events.foldl (fun i e => e.alter i) c.inventory = d.inventory

section Steps

variable {c : DisplayClient} {a : Announced}

/-- Nothing else of the client matters, and most events change no inventory. -/
theorem Knows.follows_aside (h : c.Knows a) {d : DisplayClient} {events : List Event}
    (hheads : d.heads = c.heads) (hmodes : d.modes = c.modes)
    (hgone : d.givenBack = c.givenBack) (hevents : d.events = c.events ++ events)
    (haside : ∀ e ∈ events, ∀ i, e.alter i = i) : c.Follows a d := by
  have hids : d.headIds = c.headIds := by rw [headIds, hheads, headIds]
  constructor
  · exact ⟨hids ▸ h.head, hmodes ▸ h.mode, by rw [hids, hmodes]; exact h.owner,
      hmodes ▸ h.distinct, by rw [hids, hgone]; exact h.heard⟩
  · refine ⟨events, hevents, ?_⟩
    rw [inventory_congr hheads hmodes]
    clear hevents
    induction events with
    | nil => rfl
    | cons e rest ih =>
        rw [List.foldl_cons, haside e List.mem_cons_self]
        exact ih fun e he => haside e (List.mem_cons_of_mem _ he)

theorem Knows.follows_self (h : c.Knows a) : c.Follows a c :=
  h.follows_aside rfl rfl rfl (List.append_nil _).symm (by simp)

theorem Knows.follows_push (h : c.Knows a) {e : Event} (he : ∀ i, e.alter i = i) :
    c.Follows a (c.push e) :=
  h.follows_aside rfl rfl rfl rfl (by simpa using he)

theorem Knows.follows_newHead (h : c.Knows a) {id : HeadId} (hnew : id ∉ a.heads) :
    c.Follows (a.after (.newHead id)) ((c.addHead id).push (.headArrived id)) := by
  have hid : id ∉ c.headIds := fun hmem => hnew ((h.head id).mp hmem)
  have hheads : ((c.addHead id).push (.headArrived id)).headIds = c.headIds ++ [id] := by
    simp only [headIds, push, addHead, filter_eq_self_of_notMem hid, List.map_append]
    rfl
  have hmodes : c.modesOf id = [] := by
    rw [modesOf, List.map_eq_nil_iff, List.filter_eq_nil_iff]
    intro m hm howner
    exact hid (of_decide_eq_true howner ▸ h.owner m hm)
  constructor
  · constructor
    · intro k
      simp only [hheads, Announced.after, List.mem_append, h.head]
    · exact h.mode
    · intro m hm
      rw [hheads]
      exact List.mem_append_left _ (h.owner m hm)
    · exact h.distinct
    · intro k hk hgone
      obtain ⟨hgone, hne⟩ := List.mem_filter.mp hgone
      rw [hheads] at hk
      rcases List.mem_append.mp hk with hk | hk
      · exact h.heard k hk hgone
      · simp_all
  · refine ⟨[.headArrived id], rfl, ?_⟩
    have hinventory : ((c.addHead id).push (.headArrived id)).inventory =
        c.inventory ++ [(id, c.modesOf id)] := by
      rw [inventory, hheads, List.map_append]
      rfl
    simp only [List.foldl_cons, List.foldl_nil, Event.alter, map_fst_inventory, hid, if_false,
      hinventory, hmodes]

theorem Knows.follows_newMode (h : c.Knows a) {id : HeadId} {m : ModeId} (hid : id ∈ a.heads)
    (hnew : m ∉ a.modes) :
    c.Follows (a.after (.head id (.mode m))) ((c.addMode m id).push (.modeArrived id m)) := by
  have hknown : m ∉ c.modes.map (·.id) := by
    intro hmem
    obtain ⟨k, hk, rfl⟩ := List.mem_map.mp hmem
    exact hnew (h.mode k hk)
  obtain ⟨k, hk, howner, hmodes⟩ : ∃ k : KnownMode, k.id = m ∧ k.owner = id ∧
      ((c.addMode m id).push (.modeArrived id m)).modes = c.modes ++ [k] := by
    refine ⟨⟨m, id, ((c.knownHead? id).map (·.version)).getD c.version⟩, rfl, rfl, ?_⟩
    simp only [push, addMode, filter_eq_self_of_notMem hknown]
  constructor
  · constructor
    · exact h.head
    · intro n hn
      rcases List.mem_append.mp (hmodes ▸ hn) with hn | hn
      · exact List.mem_append_left _ (h.mode n hn)
      · rw [List.mem_singleton.mp hn, hk]
        exact List.mem_append_right _ (List.mem_singleton_self m)
    · intro n hn
      rcases List.mem_append.mp (hmodes ▸ hn) with hn | hn
      · exact h.owner n hn
      · rw [List.mem_singleton.mp hn, howner]
        exact (h.head id).mpr hid
    · rw [hmodes, ← List.concat_eq_append, List.map_concat, List.nodup_concat, hk]
      exact ⟨hknown, h.distinct⟩
    · exact h.heard
  · refine ⟨[.modeArrived id m], rfl, ?_⟩
    simp only [List.foldl_cons, List.foldl_nil, Event.alter, inventory, List.map_map]
    refine List.map_congr_left fun n _ => ?_
    have hfresh : m ∉ c.modesOf n := fun hmem =>
      hknown (List.map_subset _ List.filter_sublist.subset hmem)
    simp only [Function.comp_apply, modesOf, hmodes, List.filter_append]
    by_cases hn : n = id
    · have hown : k.owner = n := howner.trans hn.symm
      change (if n = id then (n, insertNew m (c.modesOf n)) else _) = _
      rw [if_pos hn, insertNew, if_neg hfresh, List.filter_cons_of_pos (by simpa using hown)]
      simp [modesOf, hk]
    · have hother : k.owner ≠ n := fun heq => hn (heq.symm.trans howner)
      simp [hn, hother]

/-- A head goes with all of its modes, though these may be withdrawn later. -/
theorem Knows.follows_dropHead (h : c.Knows a) (id : HeadId) {gone : List HeadId}
    (hgone : ∀ k ∈ gone, k = id ∨ k ∈ c.givenBack) :
    c.Follows (a.after (.head id .finished))
      { (c.dropHead id).push (.headFinished id) with givenBack := gone } := by
  have hheads : ({ (c.dropHead id).push (.headFinished id) with givenBack := gone } :
      DisplayClient).headIds = c.headIds.filter fun k => decide (k ≠ id) := by
    simp only [headIds, push, dropHead, List.filter_map]
    rfl
  constructor
  · constructor
    · intro k
      simp only [hheads, Announced.after, List.mem_filter, h.head]
    · exact fun m hm => h.mode m (List.mem_filter.mp hm).1
    · intro m hm
      obtain ⟨hm, howner⟩ := List.mem_filter.mp hm
      rw [hheads]
      exact List.mem_filter.mpr ⟨h.owner m hm, howner⟩
    · exact h.distinct.sublist (List.filter_sublist.map _)
    · intro k hk hmem
      rw [hheads] at hk
      obtain ⟨hk, hne⟩ := List.mem_filter.mp hk
      rcases hgone k hmem with rfl | hmem
      · simp at hne
      · exact h.heard k hk hmem
  · refine ⟨[.headFinished id], rfl, ?_⟩
    simp only [List.foldl_cons, List.foldl_nil, Event.alter]
    rw [inventory, inventory, hheads, List.filter_map]
    refine List.map_congr_left fun k hk => ?_
    have hne : k ≠ id := of_decide_eq_true (List.mem_filter.mp hk).2
    simp only [modesOf, push, dropHead, List.filter_filter]
    congr 2
    refine List.filter_congr fun m _ => ?_
    by_cases howner : m.owner = k <;> simp [howner, hne]

theorem Knows.follows_dropMode (h : c.Knows a) {m : KnownMode} (hm : m ∈ c.modes) :
    c.Follows (a.after (.mode m.id .finished))
      ((c.dropMode m.id).push (.modeFinished m.owner m.id)) := by
  constructor
  · constructor
    · exact h.head
    · intro n hn
      obtain ⟨hn, hne⟩ := List.mem_filter.mp hn
      exact List.mem_filter.mpr ⟨h.mode n hn, hne⟩
    · exact fun n hn => h.owner n (List.mem_filter.mp hn).1
    · exact h.distinct.sublist (List.filter_sublist.map _)
    · exact h.heard
  · refine ⟨[.modeFinished m.owner m.id], rfl, ?_⟩
    simp only [List.foldl_cons, List.foldl_nil, Event.alter, inventory, List.map_map]
    refine List.map_congr_left fun k _ => ?_
    have hafter : ((c.dropMode m.id).push (.modeFinished m.owner m.id)).modesOf k =
        (c.modesOf k).filter fun n => decide (n ≠ m.id) := by
      simp only [modesOf, push, dropMode, List.filter_map, List.filter_filter, Function.comp_def]
      congr 2
      funext n
      exact Bool.and_comm _ _
    rw [hafter, Function.comp_apply]
    by_cases howner : k = m.owner
    · simp only [howner, if_true]
    · have hkept : (c.modesOf k).filter (fun n => decide (n ≠ m.id)) = c.modesOf k := by
        -- the number of a mode is in the table only once, so no other head has this one
        refine List.filter_eq_self.mpr fun n hn => decide_eq_true ?_
        rintro rfl
        obtain ⟨n, hn, hid⟩ := List.mem_map.mp hn
        obtain ⟨hn, hk⟩ := List.mem_filter.mp hn
        obtain rfl := List.inj_on_of_nodup_map h.distinct hn hm hid
        exact howner (of_decide_eq_true hk).symm
      simp only [howner, if_false, hkept]

/-- A mode that has gone with its head is withdrawn without the client taking notice. -/
theorem Knows.follows_unknown (h : c.Knows a) {id : ModeId} (hunknown : c.knownMode? id = none)
    (message : ModeMessage) : c.Follows (a.after (.mode id message)) c := by
  cases message with
  | finished =>
      refine ⟨⟨h.head, fun m hm => List.mem_filter.mpr ⟨h.mode m hm, decide_eq_true ?_⟩, h.owner,
        h.distinct, h.heard⟩, [], (List.append_nil _).symm, rfl⟩
      rintro rfl
      simpa using List.find?_eq_none.mp hunknown m hm
  | _ => exact h.follows_self

/-- Whatever a compositor may say, the client keeps track of it. -/
theorem Knows.follows_handle (h : c.Knows a) {m : CompositorMessage} (hm : a.permits m = true) :
    c.Follows (a.after m) (c.handle m).client := by
  cases m with
  | newHead id => exact h.follows_newHead (of_decide_eq_true hm)
  | head id message =>
      have hid : id ∈ a.heads := by
        cases message <;> simp_all [Announced.permits]
      have hheard : id ∉ c.givenBack := h.heard id ((h.head id).mpr hid)
      rw [handle, if_neg hheard]
      cases message with
      | mode m =>
          simp only [Announced.permits, Bool.and_eq_true, decide_eq_true_eq] at hm
          exact h.follows_newMode hid hm.2
      | finished =>
          rw [handleHead, finishHead]
          split
          · exact h.follows_dropHead id fun k hk => List.mem_cons.mp hk
          · exact h.follows_dropHead id fun k hk => Or.inr hk
      | adaptiveSync flag => exact h.follows_self
      | _ => exact h.follows_push fun _ => rfl
  | mode id message =>
      rw [handle, handleMode]
      cases hknown : c.knownMode? id with
      | none => exact h.follows_unknown hknown message
      | some m =>
          have hmem : m ∈ c.modes := List.mem_of_find?_eq_some hknown
          obtain rfl : m.id = id := of_decide_eq_true (List.find?_some hknown :)
          cases message with
          | finished => exact h.follows_dropMode hmem
          | _ => exact h.follows_push fun _ => rfl
  | done serial => exact h.follows_push fun _ => rfl
  | finished => exact h.follows_aside rfl rfl rfl rfl (by simp [Event.alter])
  | outcome n o => exact h.follows_aside rfl rfl rfl rfl (by simp [Event.alter])
  | fatal code text => exact h.follows_self
  | global name interface version =>
      rw [handle]
      split
      · exact h.follows_aside rfl rfl rfl (List.append_nil _).symm (by simp)
      · exact h.follows_self
  | globalRemove name =>
      rw [handle]
      split
      · exact h.follows_aside rfl rfl rfl rfl (by simp [Event.alter])
      · exact h.follows_self

end Steps

end DisplayClient

end OutputArranger
