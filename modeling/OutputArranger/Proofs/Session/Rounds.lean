import OutputArranger.Proofs.Fulfilment
import OutputArranger.Proofs.Session.AtRest
import OutputArranger.Proofs.Session.OpenRequest

/-!
# Rounds

A round is a pass of the layout, followed by the success of the request if it sends one. The
compositor takes every request, carries it out, and then reports exactly what it was asked for. The
next pass finds the heads as the request wanted them and computes all targets anew.
-/

namespace OutputArranger

/-- What a compositor reports of a head after it has carried an entry out. -/
def HeadRequest.reports : HeadRequest → List HeadReport
  | .mode _ m => [.enabled true, .currentMode m]
  | .enable _ scale x y t => [.enabled true, .scale scale, .position x y, .transform t]
  | .disable _ => [.enabled false]

/-- What a compositor says after it has carried a request out. -/
def Request.success (r : Request) (serial : Nat) : List Event :=
  .resolved .succeeded ::
    (r.heads.flatMap fun entry => entry.reports.map (.headReported entry.head)) ++
    [.managerDone serial]

namespace Session

/-- A pass, and the success of its request. -/
def round (s : Session) : Session :=
  let p := s.layout .always
  match p.sent with
  | some r => (p.session.handleAll (r.success (p.session.outputs.serial + 1))).session
  | none => p.session

end Session

/-! ## Reports of a success -/

namespace HeadRequest

/-- A head after the reports of an entry. -/
def reported (entry : HeadRequest) (h : Head) : Head := entry.reports.foldl Head.reported h

theorem reported_eq (entry : HeadRequest) {h : Head} (hp : h.pending = Pending.none) :
    entry.reported h = { entry.fulfil h with dirty := true } := by
  cases entry with
  | mode id m => rfl
  | enable id scale x y t => rfl
  | disable id => simp [reported, reports, Head.reported, fulfil, hp, Pending.none]

end HeadRequest

namespace Request

/-- A head after the success of a request: what was asked for has been done and reported. -/
def answered (r : Request) (h : Head) : Head :=
  match r.heads.find? fun entry => decide (entry.head = h.id) with
  | some entry => { entry.fulfil h with dirty := true }
  | none => h

theorem answered_clean (r : Request) {h : Head} (hd : h.dirty = false) :
    ({ r.answered h with dirty := false } : Head) = r.fulfil h := by
  unfold answered fulfil
  cases r.heads.find? fun entry => decide (entry.head = h.id) with
  | none => rw [← hd]
  | some entry => cases entry <;> simp only [HeadRequest.fulfil, hd]

theorem cover_answered (r : Request) (h : Head) :
    ((r.answered h).lidClosed, (r.answered h).name) = (h.lidClosed, h.name) := by
  unfold answered
  split
  · rename_i entry _
    cases entry <;> rfl
  · rfl

/-- The head whose mode was changed has got that mode when the change is reported. -/
theorem fulfil_settled (r : Request) {h : Head} (hp : h.pending = Pending.none)
    {entry : HeadRequest}
    (hfind : r.heads.find? (fun entry => decide (entry.head = h.id)) = some entry) :
    entry.fulfil (Transaction.settled r.modeChange? h) = entry.fulfil h := by
  unfold modeChange?
  split
  · rename_i id m hheads
    rw [hheads] at hfind
    have hentry := List.mem_of_find?_eq_some hfind
    rw [List.mem_singleton] at hentry
    rw [hentry]
    simp only [HeadRequest.fulfil, Transaction.settled, ← hp]
  · simp only [Transaction.settled, ← hp]

theorem settled_of_no_entry (r : Request) {h : Head} (hp : h.pending = Pending.none)
    (hfind : r.heads.find? (fun entry => decide (entry.head = h.id)) = none) :
    Transaction.settled r.modeChange? h = h := by
  unfold modeChange?
  split
  · rename_i id m hheads
    rw [hheads] at hfind
    have hid : h.id ≠ id := by
      intro hid
      simp [HeadRequest.head, hid] at hfind
    simp only [Transaction.settled, hid, if_false, ← hp]
  · simp only [Transaction.settled, ← hp]

end Request

namespace Outputs

theorem updateHead_updateHead {f : Head → Head} (hf : ∀ h, (f h).id = h.id) (id : HeadId)
    (g : Head → Head) (o : Outputs) :
    (o.updateHead id f).updateHead id g = o.updateHead id fun h => g (f h) := by
  simp only [updateHead]
  rw [updateFirst_updateFirst fun h => by rw [hf h]]

/-- The reports of all entries of a request. -/
def afterReports (o : Outputs) (entries : List HeadRequest) : Outputs :=
  { o with
    heads := entries.foldl
      (fun hs entry => updateFirst (fun h => decide (h.id = entry.head)) entry.reported hs)
      o.heads }

/-- Each head is changed by the reports of its own entry. -/
theorem heads_afterReports {o : Outputs} (ho : o.ids.Nodup) {entries : List HeadRequest}
    (hentries : (entries.map HeadRequest.head).Nodup) :
    (o.afterReports entries).heads = o.heads.map fun h =>
      match entries.find? fun entry => decide (entry.head = h.id) with
      | some entry => entry.reported h
      | none => h := by
  have hid (entry : HeadRequest) (h : Head) : (entry.reported h).id = h.id := by
    cases entry <;> rfl
  rw [afterReports, foldl_updateFirst_eq_map hid hentries ho]
  refine List.map_congr_left fun h _ => ?_
  cases entries.find? fun entry => decide (entry.head = h.id) <;> rfl

end Outputs

namespace Session

theorem error_react {e : Event} (he : e ≠ .managerFinished) (s : Session) :
    (s.react e).error = none := by
  cases e with
  | managerFinished => exact absurd rfl he
  | configChanged c =>
      simp only [react, changeConfig]
      split <;> rfl
  | lidChanged closed =>
      simp only [react, changeLid]
      split <;> rfl
  | command r client =>
      cases r with
      | getConfig => rfl
      | apply command =>
          simp only [react, control]
          split <;> rfl
      | writeConfig =>
          simp only [react, control]
          split <;> rfl
  | _ => rfl

/-- While the compositor stays, events are handled to the last. -/
theorem handleAll_eq_run {events : List Event} (h : Event.managerFinished ∉ events)
    (s : Session) : (s.handleAll events).session = s.run (events.map .event) := by
  induction events generalizing s with
  | nil => rfl
  | cons e rest ih =>
      have he : (s.handle e).error = none :=
        error_react (fun heq => h (heq ▸ List.mem_cons_self)) (s.record e)
      have hrest := ih (fun hmem => h (List.mem_cons_of_mem e hmem)) (s.handle e).session
      rw [handleAll]
      simp only [he]
      exact hrest

/-- Several reports of one head change nothing but that head. -/
theorem run_headReports (id : HeadId) (reports : List HeadReport) (s : Session) :
    ∃ recording, s.run ((reports.map (.headReported id)).map .event) =
      { s with
        outputs := s.outputs.updateHead id fun h => reports.foldl Head.reported h
        recording := recording } := by
  induction reports generalizing s with
  | nil =>
      refine ⟨s.recording, ?_⟩
      simp only [List.map_nil, run_nil, List.foldl_nil, Outputs.updateHead, updateFirst_id]
  | cons r rest ih =>
      obtain ⟨recording, hrest⟩ := ih (s.handle (.headReported id r)).session
      refine ⟨recording, ?_⟩
      have hid (h : Head) : (h.reported r).id = h.id := congrArg Prod.fst (h.stake_reported r)
      have htwo := Outputs.updateHead_updateHead hid id
        (fun h => rest.foldl Head.reported h) s.outputs
      simp only [List.map_cons, run_cons, List.foldl_cons, after]
      rw [hrest, ← htwo]
      rfl

theorem run_reports (entries : List HeadRequest) (s : Session) :
    ∃ recording, s.run ((entries.flatMap fun entry =>
        entry.reports.map (.headReported entry.head)).map .event) =
      { s with outputs := s.outputs.afterReports entries, recording := recording } := by
  induction entries generalizing s with
  | nil => exact ⟨s.recording, rfl⟩
  | cons entry rest ih =>
      obtain ⟨_, hfirst⟩ := run_headReports entry.head entry.reports s
      obtain ⟨recording, hrest⟩ :=
        ih (s.run ((entry.reports.map (.headReported entry.head)).map .event))
      refine ⟨recording, ?_⟩
      rw [List.flatMap_cons, List.map_append, run_append, hrest, hfirst]
      rfl

theorem run_success (r : Request) (serial : Nat) (s : Session) :
    ∃ recording, s.run ((r.success serial).map .event) =
      { s.succeeded with
        outputs := { s.succeeded.outputs.afterReports r.heads with serial := serial }
        ready := true
        recording := recording } := by
  obtain ⟨_, hreports⟩ := run_reports r.heads (s.handle (.resolved .succeeded)).session
  rw [Request.success, List.cons_append, List.map_cons, run_cons, List.map_append, run_append]
  simp only [after]
  rw [hreports]
  exact ⟨_, rfl⟩

/-- After the success of a request every head is as it was when the request was sent, but for what
its entry asked for. -/
theorem heads_success {s : Session} {o : Outputs} {r : Request} (ho : o.ids.Nodup)
    (hidle : ∀ h ∈ o.heads, h.pending = Pending.none)
    (hentries : (r.heads.map HeadRequest.head).Nodup)
    (ht : s.transaction = some ⟨r.modeChange?⟩) (hs : s.outputs = r.heads.foldl Request.mark o) :
    (s.succeeded.outputs.afterReports r.heads).heads = o.heads.map r.answered := by
  have hids : s.outputs.ids.Nodup := by
    rw [hs, Request.ids_foldl_mark]
    exact ho
  have hheads : s.succeeded.outputs.heads =
      o.heads.map (Transaction.settled r.modeChange?) := by
    rw [outputs_succeeded hids, ht, hs]
    exact Request.map_foldl_mark (by intro _ _; rfl) r.heads o
  have hsettled : s.succeeded.outputs.ids.Nodup := by
    rw [Outputs.ids, hheads, List.map_map]
    exact ho
  rw [Outputs.heads_afterReports hsettled hentries, hheads, List.map_map]
  refine List.map_congr_left fun h hh => ?_
  have hp := hidle h hh
  have hid : (Transaction.settled r.modeChange? h).id = h.id := rfl
  simp only [Function.comp_apply, hid, Request.answered]
  cases hfind : r.heads.find? fun entry => decide (entry.head = h.id) with
  | none => exact r.settled_of_no_entry hp hfind
  | some entry =>
      dsimp only
      rw [entry.reported_eq rfl, r.fulfil_settled hp hfind]

/-! ## Rounds -/

/-- A pass computes the layout of all heads, which know different handles and no open request. -/
theorem Sound.aimed_heads {s : Session} (hs : s.Sound) (ho : s.status ≠ .outstanding) :
    Layout.Aimed s.config s.aimed.outputs.heads := by
  have hstakes : s.refreshed.outputs.resetDirty.stakes = s.outputs.stakes := by simp
  obtain ⟨_, hsame, hclosed⟩ := hs.aimed ho
  rw [← s.refreshed_environment.1]
  refine Layout.aimed_desire ?_ ?_ _
  · have hids := Outputs.ids_eq_of_stakes_eq hstakes
    rw [Outputs.ids] at hids
    rw [hids]
    exact hs.distinct
  · intro h hh
    exact hclosed h.stake (hsame ▸ hstakes ▸ List.mem_map_of_mem hh)

theorem dirty_of_mem_aimed {s : Session} {h : Head} (hh : h ∈ s.aimed.outputs.heads) :
    h.dirty = false := by
  have hclean := s.isDirty_aimed
  rw [Outputs.isDirty, Bool.or_eq_false_iff, List.any_eq_false] at hclean
  exact Bool.eq_false_iff.mpr (hclean.2 h hh)

/-- What a round comes to whose pass sends a request. -/
theorem round_state {s : Session} (hs : s.Reachable) (hc : s.computes) {r : Request}
    (hplan : Request.plan s.aimed.outputs.heads s.aimed.outputs.serial = some r) :
    s.round.Reachable ∧ s.round.status = .succeeded ∧ s.round.ready = true ∧
      s.round.config = s.aimed.config ∧ s.round.lidClosed = s.aimed.lidClosed ∧
      s.round.outputs.heads = s.aimed.outputs.heads.map r.answered := by
  obtain ⟨hp, hsent⟩ := layout_of_plan_some hc hplan .always rfl
  have haimed := hs.sound.aimed_heads hc.1
  have hfinished (serial : Nat) : Event.managerFinished ∉ r.success serial := by
    simp [Request.success]
  have hround : s.round = (s.layout .always).session.run
      ((r.success ((s.layout .always).session.outputs.serial + 1)).map .event) := by
    simp only [round, hsent]
    exact handleAll_eq_run (hfinished _) _
  obtain ⟨recording, hrun⟩ := run_success r ((s.layout .always).session.outputs.serial + 1)
    (s.layout .always).session
  refine ⟨?_, ?_, ?_, ?_, ?_, ?_⟩
  · rw [hround]
    exact (hs.layout .always).run _
  · rw [hround, hrun]
    rfl
  · rw [hround, hrun]
  · rw [hround, hrun, hp]
    rfl
  · rw [hround, hrun, hp]
    rfl
  · rw [hround, hrun]
    exact heads_success haimed.distinct haimed.idle
      (Request.nodup_of_plan haimed.distinct hplan) (by rw [hp]) (by rw [hp])

/-- A round whose pass sends a request ends with the heads as the request wanted them, and with the
next pass owed. -/
theorem round_of_plan_some {s : Session} (hs : s.Reachable) (hc : s.computes) {r : Request}
    (hplan : Request.plan s.aimed.outputs.heads s.aimed.outputs.serial = some r) :
    s.round.Reachable ∧ s.round.computes ∧
      s.round.aimed.outputs.heads =
        Layout.desire s.config (s.aimed.outputs.heads.map r.fulfil) := by
  obtain ⟨hreach, hstatus, hready, hconfig, hlid, hheads⟩ := round_state hs hc hplan
  have hsame : s.round.config = s.config := hconfig.trans s.refreshed_environment.1
  have hids := (hs.sound.aimed_heads hc.1).distinct
  -- No report of the success is about anything that the lid depends on.
  have hcover : s.round.coverChanges = false := by
    rw [← s.coverChanges_aimed]
    refine coverChanges_congr hconfig hlid ?_
    rw [hheads, List.map_map]
    exact List.map_congr_left fun h _ => r.cover_answered h
  have hdirty : s.round.outputs.isDirty = true := by
    obtain ⟨h, hh, entry, hentry⟩ := Request.exists_entry_of_plan hids hplan
    refine (Outputs.isDirty_iff _).mpr (Or.inr ⟨r.answered h, ?_, ?_⟩)
    · rw [hheads]
      exact List.mem_map_of_mem hh
    · simp only [Request.answered, hentry]
  refine ⟨hreach, ?_, ?_⟩
  · exact computes_of_owed (by simp [hstatus]) (by simp [hstatus]) hready (Or.inl hdirty)
  · rw [heads_aimed hcover, hsame, hheads, List.map_map]
    congr 1
    exact List.map_congr_left fun h hh => r.answered_clean (dirty_of_mem_aimed hh)

end Session

end OutputArranger
