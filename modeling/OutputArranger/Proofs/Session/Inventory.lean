import OutputArranger.Proofs.Session.EveryHead

/-!
# Which heads and modes there are

Which heads there are, and which modes each of them offers, follows from the events alone: only four
of them change it, each in its own way, and no answer, no pass and no command has a say in it.
-/

namespace OutputArranger

/-- The heads in the order of their discovery, each with its modes. -/
abbrev Inventory := List (HeadId × List ModeId)

def Head.listed (h : Head) : HeadId × List ModeId := (h.id, h.modes.map (·.id))

def Outputs.inventory (o : Outputs) : Inventory := o.heads.map Head.listed

theorem Outputs.ids_eq_map_inventory (o : Outputs) : o.ids = o.inventory.map Prod.fst := by
  simp only [ids, inventory, List.map_map]
  rfl

/-- What an event makes of it. -/
def Event.alter (e : Event) (inventory : Inventory) : Inventory :=
  match e with
  | .headArrived id => if id ∈ inventory.map Prod.fst then inventory else inventory ++ [(id, [])]
  | .headFinished id => inventory.filter fun o => decide (o.1 ≠ id)
  | .modeArrived id m => inventory.map fun o => if o.1 = id then (o.1, insertNew m o.2) else o
  | .modeFinished id m =>
      inventory.map fun o => if o.1 = id then (o.1, o.2.filter fun n => decide (n ≠ m)) else o
  | _ => inventory

namespace Head

variable {h : Head} {m : ModeId}

theorem mode?_isSome_iff : (h.mode? m).isSome = true ↔ m ∈ h.modes.map (·.id) := by
  rw [mode?, List.find?_isSome, List.mem_map]
  simp only [decide_eq_true_eq]

theorem listed_reported (h : Head) (r : HeadReport) : (h.reported r).listed = h.listed := by
  cases r <;> rfl

theorem listed_arriveMode (h : Head) (m : ModeId) :
    (Session.arriveMode m h).listed = (h.id, insertNew m (h.modes.map (·.id))) := by
  unfold Session.arriveMode addMode insertNew
  by_cases hknown : m ∈ h.modes.map (·.id)
  · simp only [mode?_isSome_iff, hknown, if_true, listed]
  · simp only [mode?_isSome_iff, hknown, if_false, listed, List.map_append]
    rfl

theorem listed_reportMode (h : Head) (m : ModeId) (r : ModeReport) :
    (Session.reportMode m r h).listed = h.listed := by
  have hid : (Session.reportMode m r h).id = h.id :=
    congrArg Prod.fst (Session.stake_reportMode m r h)
  rw [listed, Session.ids_reportMode, hid, listed]

theorem listed_finishMode (hmodes : (h.modes.map (·.id)).Nodup) (m : ModeId) :
    (Session.finishMode m h).listed =
      (h.id, (h.modes.map (·.id)).filter fun n => decide (n ≠ m)) := by
  unfold Session.finishMode removeMode
  by_cases hknown : m ∈ h.modes.map (·.id)
  · simp only [mode?_isSome_iff, hknown, if_true, listed, eraseP_eq_filter hmodes, List.filter_map]
    rfl
  · have hothers : (h.modes.map (·.id)).filter (fun n => decide (n ≠ m)) = h.modes.map (·.id) :=
      filter_eq_self_of_notMem (by simpa using hknown)
    simp only [mode?_isSome_iff, hknown, if_false, listed, hothers]

end Head

namespace Session

variable {s : Session}

theorem inventory_acted {e : Event}
    (hmodes : ∀ h ∈ s.outputs.heads, (h.modes.map (·.id)).Nodup)
    (harrived : ∀ id, e ≠ .headArrived id) (hfinished : ∀ id, e ≠ .headFinished id) :
    (s.outputs.heads.map (s.acted e)).map Head.listed = e.alter s.outputs.inventory := by
  have same (hact : ∀ h, (s.acted e h).listed = h.listed)
      (halter : e.alter s.outputs.inventory = s.outputs.inventory) :
      (s.outputs.heads.map (s.acted e)).map Head.listed = e.alter s.outputs.inventory := by
    rw [halter, List.map_map]
    exact List.map_congr_left fun h _ => hact h
  have about {id : HeadId} {f : Head → Head} (hf : ∀ h, (f h).listed = h.listed) (h : Head) :
      (if h.id = id then f h else h).listed = h.listed := by
    split
    · exact hf h
    · rfl
  cases e with
  | headArrived id => exact absurd rfl (harrived id)
  | headFinished id => exact absurd rfl (hfinished id)
  | headReported id r => exact same (about fun h => h.listed_reported r) rfl
  | modeReported id m r => exact same (about fun h => h.listed_reportMode m r) rfl
  | modeArrived id m =>
      simp only [Event.alter, Outputs.inventory, List.map_map]
      refine List.map_congr_left fun h _ => ?_
      simp only [Function.comp_apply, acted]
      by_cases hid : h.id = id
      · rw [if_pos hid, Head.listed_arriveMode]
        simp only [Head.listed, hid, if_true]
      · simp only [hid, if_false, Head.listed]
  | modeFinished id m =>
      simp only [Event.alter, Outputs.inventory, List.map_map]
      refine List.map_congr_left fun h hh => ?_
      simp only [Function.comp_apply, acted]
      by_cases hid : h.id = id
      · rw [if_pos hid, Head.listed_finishMode (hmodes h hh)]
        simp only [Head.listed, hid, if_true]
      · simp only [hid, if_false, Head.listed]
  | lidChanged closed =>
      refine same (fun h => ?_) rfl
      simp only [acted]
      split
      · rfl
      · exact view_coverHead (fun _ _ _ => rfl) _ _ h
  | resolved outcome =>
      refine same (fun h => ?_) rfl
      have hundone := Transaction.view_undone (g := Head.listed) (fun _ _ _ _ => rfl) outcome
        (s.transaction.bind (·.modeChange)) h
      simp only [acted]
      split
      · rfl
      · split <;> exact hundone
  | _ => exact same (fun _ => rfl) rfl

theorem inventory_handle (hs : s.Reachable) (e : Event) :
    (s.handle e).session.outputs.inventory = e.alter s.outputs.inventory := by
  cases e.traffic with
  | coming id =>
      simp only [handle, react, quiet, Outputs.addHead, Event.alter]
      rw [← Outputs.ids_eq_map_inventory]
      by_cases hknown : id ∈ s.outputs.ids
      · simp only [record, Outputs.head?_isSome_iff, hknown, if_true]
        rfl
      · rw [if_neg hknown]
        simp only [record, Outputs.head?_isSome_iff, hknown, if_false, Outputs.inventory,
          List.map_append]
        rfl
  | going id =>
      change (s.outputs.removeHead id).heads.map Head.listed = _
      rw [Outputs.heads_removeHead hs.sound.distinct, Event.alter, Outputs.inventory,
        List.filter_map]
      rfl
  | staying harrived hfinished =>
      have hheads := heads_react (hs.sound.record e).distinct harrived hfinished
      rw [Outputs.inventory, handle, hheads]
      exact inventory_acted (s := s.record e) (fun h hh => hs.nodup_modes hh) harrived hfinished

theorem inventory_layout (s : Session) (accepts : Acceptance) :
    (s.layout accepts).session.outputs.inventory = s.outputs.inventory := by
  have hview : IgnoresNotes Head.listed := fun _ _ _ _ _ _ _ => rfl
  exact hview.map_layout s accepts

end Session

end OutputArranger
