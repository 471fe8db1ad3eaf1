import OutputArranger.Proofs.Session.FailingHead

/-!
# Heads that shall be in another mode

Whether a head shall be in another mode is decided anew by every pass that computes the layout.
While no request for one of its modes is open the decision stays the same, as long as nothing else
is reported than what was asked for. A head that is in the right mode is not asked for another one,
and a head that needs one is asked for it before any head that was discovered later.
-/

namespace OutputArranger.Session

/-- Whether a head shall be on, and the best of its modes is another one than it is in. -/
def wantsOther (s : Session) (h : Head) : Bool :=
  let covered := { h with lidClosed := isCovered s.config s.lidClosed h }
  Layout.mayBeOn s.config (Layout.isSole s.outputs.heads) covered &&
    (Layout.bestMode s.config covered).any fun m => some m.id != h.currentMode

theorem ignoresNotes_wantsOther (s : Session) : IgnoresNotes fun h => (h.id, s.wantsOther h) :=
  fun _ _ _ _ _ _ _ => rfl

/-- Once the layout is computed, the heads that need a mode are those that shall be in another
one. -/
theorem needsMode_aimed {s : Session} (hs : s.Sound) (ho : s.status ≠ .outstanding) {h : Head}
    (hh : h ∈ s.aimed.outputs.heads) : Request.needsMode h = s.wantsOther h := by
  have haimed := hs.aimed_heads ho
  have hself := Request.needsMode_targeted (haimed.idle h hh) s.config s.aimed.outputs.heads
  obtain ⟨hconfig, hlid⟩ := s.refreshed_environment
  have hcover : h.lidClosed = isCovered s.config s.lidClosed h := by
    have hcovered := coverChanges_eq_false_iff.mp s.coverChanges_aimed h hh
    change h.lidClosed = isCovered s.refreshed.config s.refreshed.lidClosed h at hcovered
    rwa [hconfig, hlid] at hcovered
  have hsole : Layout.isSole s.aimed.outputs.heads = Layout.isSole s.outputs.heads :=
    Layout.isSole_congr (s.ignoresNotes_wantsOther.map_aimed s)
  rw [haimed.targeted hh] at hself
  rw [hself, Layout.changesMode_wanted, hsole, wantsOther, ← hcover]

/-- The first head that shall be in another mode is the first one that a pass asks for a mode. -/
theorem find?_wantsOther {s : Session} (hs : s.Sound) (ho : s.status ≠ .outstanding) :
    (s.aimed.outputs.heads.find? Request.needsMode).map (fun h => (h.id, h.usableModes)) =
      (s.outputs.heads.find? s.wantsOther).map fun h => (h.id, h.usableModes) := by
  have hview : IgnoresNotes fun h => (s.wantsOther h, h.id, h.usableModes) :=
    fun _ _ _ _ _ _ _ => rfl
  have hfind (heads : List Head) :
      (heads.find? s.wantsOther).map (fun h => (h.id, h.usableModes)) =
        ((heads.map fun h => (s.wantsOther h, h.id, h.usableModes)).find? Prod.fst).map
          Prod.snd := by
    rw [List.find?_map, Option.map_map]
    rfl
  rw [List.find?_congr fun h hh => needsMode_aimed hs ho hh, hfind, hfind, hview.map_aimed]

theorem wantsOther_reported {s : Session} {h : Head} {r : HeadReport} (hr : s.mayFollow h.id r)
    (hknown : ∀ m, r = .currentMode m → h.currentMode = some m) :
    s.wantsOther (h.reported r) = s.wantsOther h := by
  cases r with
  | enabled on => rfl
  | position x y => rfl
  | transform t => rfl
  | scale f => rfl
  | currentMode m =>
      simp only [wantsOther, hknown m rfl]
      rfl
  | _ => exact hr.elim

/-- The head whose mode a pass asks for is the first one that needs one. -/
theorem first_of_asked {s : Session} (hs : s.Sound) {accepts : Acceptance} {id : HeadId}
    {m : ModeId} (hidle : s.transaction ≠ some ⟨some (id, m)⟩)
    (ht : (s.layout accepts).session.transaction = some ⟨some (id, m)⟩) :
    s.status ≠ .outstanding ∧ (∃ r, (s.layout accepts).sent = some r ∧ r.heads = [.mode id m]) ∧
      ∃ h, s.aimed.outputs.heads.find? Request.needsMode = some h ∧ h.id = id := by
  by_cases hc : s.computes
  · obtain ⟨r, hsent, hchange⟩ := sent_of_transaction (hs.transaction_eq_none hc.1) ht
    obtain ⟨_, hplan⟩ := plan_of_sent hsent
    have hheads := Request.heads_of_modeChange? hchange
    have hnamed : id ∈ s.aimed.outputs.heads.map (·.id) := by
      refine (Request.sublist_of_plan hplan).2.subset ?_
      rw [hheads]
      exact List.mem_singleton_self id
    obtain ⟨h, hh, rfl⟩ := List.mem_map.mp hnamed
    have hfirst := (Request.usable_of_modeChange? (hs.aimed_heads hc.1) hplan hh hchange).1
    exact ⟨hc.1, ⟨r, hsent, hheads⟩, h, hfirst, rfl⟩
  · exact absurd ((layout_of_not_computes hc accepts).2.1 ▸ ht) hidle

/-- Whether a head shall be in another mode is settled for now: no request for one of its modes is
open, nor one for a mode of the head whose modes fail. -/
structure Unasked (failing id : HeadId) (wants : Bool) (ids : List HeadId) (s : Session) :
    Prop where
  reachable : s.Reachable
  order : s.outputs.ids = ids
  modes : ∀ h ∈ s.outputs.heads, h.id = id → s.wantsOther h = wants
  idle : ∀ m, s.transaction ≠ some ⟨some (id, m)⟩
  calm : ∀ m, s.transaction ≠ some ⟨some (failing, m)⟩

theorem unasked_of_mem {s : Session} (hs : s.Reachable) {h : Head} (hh : h ∈ s.outputs.heads)
    (failing : HeadId) (hidle : ∀ m, s.transaction ≠ some ⟨some (h.id, m)⟩)
    (hcalm : ∀ m, s.transaction ≠ some ⟨some (failing, m)⟩) :
    s.Unasked failing h.id (s.wantsOther h) s.outputs.ids := by
  refine ⟨hs, rfl, fun g hg hid => ?_, hidle, hcalm⟩
  rw [List.inj_on_of_nodup_map hs.sound.distinct hg hh hid]

namespace Unasked

variable {failing id : HeadId} {wants : Bool} {ids : List HeadId} {s t : Session}

/-- What becomes of the heads does not matter as long as none of them is in another mode. -/
theorem of_map (hs : s.Unasked failing id wants ids) (ht : t.Reachable)
    (hframe : t.config = s.config ∧ t.lidClosed = s.lidClosed)
    (hheads : (t.outputs.heads.map fun h => (h.id, h.id = id → s.wantsOther h = wants)) =
      s.outputs.heads.map fun h => (h.id, h.id = id → s.wantsOther h = wants))
    (hidle : ∀ m, t.transaction ≠ some ⟨some (id, m)⟩)
    (hcalm : ∀ m, t.transaction ≠ some ⟨some (failing, m)⟩) :
    t.Unasked failing id wants ids := by
  have hsole := Layout.isSole_congr hheads
  have hsame (h : Head) : t.wantsOther h = s.wantsOther h := by
    unfold wantsOther
    rw [hframe.1, hframe.2, hsole]
  refine ⟨ht, ?_, ?_, hidle, hcalm⟩
  · have hids := congrArg (List.map Prod.fst) hheads
    rw [List.map_map, List.map_map] at hids
    exact hids.trans hs.order
  · have hmodes := congrArg (List.map Prod.snd) hheads
    rw [List.map_map, List.map_map] at hmodes
    intro h hh hid
    rw [hsame]
    exact forall_mem_of_map_eq hmodes hs.modes h hh hid

theorem reported (hs : s.Unasked failing id wants ids) {head : HeadId} {r : HeadReport}
    (hr : s.mayFollow head r) :
    (s.handle (.headReported head r)).session.Unasked failing id wants ids := by
  have hdistinct : s.outputs.ids.Nodup := hs.reachable.sound.distinct
  have hheads : (s.handle (.headReported head r)).session.outputs.heads =
      s.outputs.heads.map fun h => if h.id = head then h.reported r else h :=
    Outputs.heads_updateHead hdistinct head (·.reported r)
  refine hs.of_map (hs.reachable.run [.event _]) ⟨rfl, rfl⟩ ?_ hs.idle hs.calm
  rw [hheads, List.map_map]
  refine List.map_congr_left fun h hh => ?_
  by_cases hhead : h.id = head
  · have hid : (h.reported r).id = h.id := congrArg Prod.fst (h.stake_reported r)
    rw [Function.comp_apply, if_pos hhead, hid]
    refine Prod.ext rfl (implies_congr_ctx rfl fun hown => ?_)
    rw [wantsOther_reported (hhead ▸ hr)]
    rintro m rfl
    obtain hasked | ⟨h', hh', hid', hmode⟩ := hr
    · exact absurd (hown ▸ hhead ▸ hasked) (hs.idle m)
    · rwa [List.inj_on_of_nodup_map hdistinct hh' hh (hid'.trans hhead.symm)] at hmode
  · rw [Function.comp_apply, if_neg hhead]

theorem succeeded (hs : s.Unasked failing id wants ids) :
    (s.handle (.resolved .succeeded)).session.Unasked failing id wants ids := by
  have hout := outputs_succeeded (hs.reachable.sound.record (.resolved .succeeded)).distinct
  have hheads : (s.handle (.resolved .succeeded)).session.outputs.heads =
      s.outputs.heads.map (Transaction.settled (s.transaction.bind (·.modeChange))) :=
    congrArg Outputs.heads hout
  have hclosed : (s.handle (.resolved .succeeded)).session.transaction = none := rfl
  refine hs.of_map (hs.reachable.run [.event _]) ⟨rfl, rfl⟩ ?_ (by simp [hclosed])
    (by simp [hclosed])
  rw [hheads, List.map_map]
  refine List.map_congr_left fun h _ => Prod.ext rfl (implies_congr_ctx rfl fun hown => ?_)
  have hother (m : ModeId) : s.transaction.bind (·.modeChange) ≠ some (h.id, m) := by
    intro hbind
    obtain ⟨⟨_⟩, ht, rfl⟩ := Option.bind_eq_some_iff.mp hbind
    exact hs.idle m (hown ▸ ht)
  rw [Transaction.settled_of_ne hother]
  rfl

/-- As long as the head whose modes fail is not asked for one, nothing fails. -/
theorem handle (hs : s.Unasked failing id wants ids) {e : Event}
    (he : s.FailsOnly failing (.event e)) :
    (s.handle e).session.Unasked failing id wants ids ∧ ¬ s.GivingUp (.event e) := by
  cases e with
  | headReported head r => exact ⟨hs.reported he, fun h => h⟩
  | managerDone serial =>
      have hreach := hs.reachable.run [.event (.managerDone serial)]
      exact ⟨hs.of_map hreach ⟨rfl, rfl⟩ rfl hs.idle hs.calm, fun h => h⟩
  | resolved outcome =>
      cases outcome with
      | succeeded => exact ⟨hs.succeeded, s.not_givingUp_succeeded⟩
      | failed =>
          obtain ⟨t, ht, hfor⟩ := he
          obtain ⟨m, rfl⟩ := Transaction.exists_mode_of_isFor hfor
          exact absurd ht (hs.calm m)
      | cancelled => exact he.elim
  | _ => exact he.elim

theorem layout (hs : s.Unasked failing id wants ids) {accepts : Acceptance}
    (hidle : ∀ m, (s.layout accepts).session.transaction ≠ some ⟨some (id, m)⟩)
    (hcalm : ∀ m, (s.layout accepts).session.transaction ≠ some ⟨some (failing, m)⟩) :
    (s.layout accepts).session.Unasked failing id wants ids := by
  have hview : IgnoresNotes fun h => (h.id, h.id = id → s.wantsOther h = wants) :=
    fun _ _ _ _ _ _ _ => rfl
  exact hs.of_map (hs.reachable.layout accepts) (s.layout_environment accepts)
    (hview.map_layout s accepts) hidle hcalm

/-- A pass finds that the head needs a mode if it shall be in another one. -/
theorem needsMode_eq (hs : s.Unasked failing id wants ids) (ho : s.status ≠ .outstanding) {h : Head}
    (hh : h ∈ s.aimed.outputs.heads) (hid : h.id = id) : Request.needsMode h = wants := by
  have hview : IgnoresNotes fun h => (h.id = id → s.wantsOther h = wants) :=
    fun _ _ _ _ _ _ _ => rfl
  rw [needsMode_aimed hs.reachable.sound ho hh]
  exact forall_mem_of_map_eq (hview.map_aimed s) hs.modes h hh hid

end Unasked

/-- A head that is in the right mode is not asked for another one, so that nothing fails. -/
theorem Unasked.after_content {s : Session} {id : HeadId} {ids : List HeadId}
    (hs : s.Unasked id id false ids) {m : Move} (hm : s.FailsOnly id m) :
    (s.after m).Unasked id id false ids ∧ ¬ s.GivingUp m := by
  cases m with
  | event e => exact hs.handle hm
  | pass accepts =>
      have hidle (m : ModeId) :
          (s.layout accepts).session.transaction ≠ some ⟨some (id, m)⟩ := by
        intro ht
        obtain ⟨ho, _, h, hfirst, hid⟩ := first_of_asked hs.reachable.sound (hs.idle m) ht
        have hneeds : Request.needsMode h = true := List.find?_some hfirst
        rw [hs.needsMode_eq ho (List.mem_of_find?_eq_some hfirst) hid] at hneeds
        simp at hneeds
      exact ⟨hs.layout hidle hidle, fun h => h⟩

/-- A head that needs a mode is asked for it before a head that was discovered later is. -/
theorem Unasked.after_ahead {s : Session} {failing id : HeadId} {ids : List HeadId}
    (hs : s.Unasked failing id true ids) (hlt : ids.idxOf id < ids.idxOf failing) {m : Move}
    (hm : s.FailsOnly failing m) :
    (s.after m).Unasked failing id true ids ∧ ¬ s.GivingUp m ∨
      ∃ r ∈ s.requests [m], id ∈ r.heads.map HeadRequest.head := by
  cases m with
  | event e => exact Or.inl (hs.handle hm)
  | pass accepts =>
      by_cases hasked : ∃ m, (s.layout accepts).session.transaction = some ⟨some (id, m)⟩
      · obtain ⟨m, ht⟩ := hasked
        obtain ⟨_, ⟨r, hsent, hheads⟩, _⟩ := first_of_asked hs.reachable.sound (hs.idle m) ht
        exact Or.inr ⟨r, by simp [requests, hsent], by simp [hheads, HeadRequest.head]⟩
      · refine Or.inl ⟨hs.layout (fun m ht => hasked ⟨m, ht⟩) fun m ht => ?_, fun h => h⟩
        obtain ⟨ho, _, h, hfirst, rfl⟩ := first_of_asked hs.reachable.sound (hs.calm m) ht
        have haimed := hs.reachable.sound.aimed_heads ho
        have hids : s.aimed.outputs.heads.map (·.id) = ids := by
          have hview : IgnoresNotes Head.id := fun _ _ _ _ _ _ _ => rfl
          exact (hview.map_aimed s).trans hs.order
        have hmem : id ∈ s.aimed.outputs.heads.map (·.id) :=
          hids ▸ List.idxOf_lt_length_iff.mp (Nat.lt_of_lt_of_le hlt List.idxOf_le_length)
        obtain ⟨b, hb, rfl⟩ := List.mem_map.mp hmem
        have hearlier := eq_false_of_idxOf_lt haimed.distinct hfirst hb (hids ▸ hlt)
        rw [hs.needsMode_eq ho hb rfl] at hearlier
        simp at hearlier

/-- The changes are not given up before such a head was named. -/
theorem Unasked.run_ahead {s : Session} {failing id : HeadId} {ids : List HeadId}
    (hs : s.Unasked failing id true ids) (hlt : ids.idxOf id < ids.idxOf failing)
    {moves : List Move} (hm : s.Throughout (FailsOnly failing) moves)
    (hunnamed : ∀ r ∈ s.requests moves, id ∉ r.heads.map HeadRequest.head) :
    ¬ s.Sometime GivingUp moves := by
  induction moves generalizing s with
  | nil => exact fun h => h
  | cons m rest ih =>
      rw [requests_cons, List.forall_mem_append] at hunnamed
      rcases hs.after_ahead hlt hm.1 with ⟨hnext, hgoesOn⟩ | ⟨r, hr, hnamed⟩
      · exact fun h => h.elim hgoesOn (ih hnext hm.2 hunnamed.2)
      · exact absurd hnamed (hunnamed.1 r hr)

end OutputArranger.Session
