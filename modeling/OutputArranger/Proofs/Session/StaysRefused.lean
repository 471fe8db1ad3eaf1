import OutputArranger.Proofs.RequestShape
import OutputArranger.Proofs.Session.HeadChanges

/-!
# A refused mode stays refused

When the compositor refuses a mode, the head remembers it. Only the withdrawal of the mode, or of
the head with everything that is known of it, makes it forget; configurations, the lid, other
answers and what is reported of the current mode have no part in this. Since every request is for a
mode that is not remembered as refused, the mode is not asked for again for as long as it is
offered.
-/

namespace OutputArranger

theorem Transaction.mem_failedModes_undone (outcome : Outcome)
    (modeChange : Option (HeadId × ModeId)) {h : Head} {m : ModeId} (hm : m ∈ h.failedModes) :
    m ∈ (undone outcome modeChange h).failedModes := by
  unfold undone
  split
  · split
    · exact mem_insertNew.mpr (Or.inr hm)
    · exact hm
  · exact hm

namespace Session

variable {s : Session} {h : Head}

theorem failedModes_finishMode {m n : ModeId} (hne : n ≠ m) (hn : n ∈ h.failedModes) :
    n ∈ (finishMode m h).failedModes := by
  unfold finishMode Head.removeMode
  split
  · exact List.mem_filter.mpr ⟨hn, decide_eq_true hne⟩
  · exact hn

/-- An event makes a head forget none of the refused modes but the one that is withdrawn. -/
theorem mem_failedModes_acted {e : Event} {n : ModeId} (hn : n ∈ h.failedModes)
    (hkept : e ≠ .modeFinished h.id n) : n ∈ (s.acted e h).failedModes := by
  have same {g : Head} (hg : s.acted e h = g) (hfailed : g.failedModes = h.failedModes) :
      n ∈ (s.acted e h).failedModes := hg ▸ hfailed ▸ hn
  have hundone (outcome : Outcome) := Transaction.mem_failedModes_undone outcome
    (s.transaction.bind (·.modeChange)) hn
  cases s.effect e h with
  | untouched hg => exact same hg rfl
  | reported r _ hg => exact same hg (by cases r <;> rfl)
  | modeArrived m _ hg => exact same hg (view_arriveMode (fun _ _ _ => rfl) m h)
  | modeReported m r _ hg => exact same hg (view_reportMode (fun _ _ _ => rfl) m r h)
  | modeFinished m he hg =>
      rw [hg]
      exact failedModes_finishMode (fun hnm => hkept (hnm ▸ he)) hn
  | covered closed _ hg => exact same hg (view_coverHead (fun _ _ _ => rfl) _ _ h)
  | settled _ hg => exact same hg rfl
  | undone outcome _ hg => exact hg ▸ hundone outcome
  | givenUp outcome _ hg => exact hg ▸ hundone outcome

/-- What a pass leaves alone of what was refused. -/
theorem ignoresNotes_failedModes : IgnoresNotes fun h => (h.id, h.failedModes) :=
  fun _ _ _ _ _ _ _ => rfl

theorem exists_after_of_mem (hs : s.Sound) (hh : h ∈ s.outputs.heads) {m : Move}
    (hstays : m ≠ .event (.headFinished h.id)) :
    ∃ a ∈ (s.after m).outputs.heads, a.id = h.id ∧
      ∀ mode ∈ h.failedModes, m ≠ .event (.modeFinished h.id mode) → mode ∈ a.failedModes := by
  cases m with
  | event e =>
      have hmem := acted_mem_react (hs.record e).distinct hh fun he => hstays (he ▸ rfl)
      refine ⟨_, hmem, id_acted _ e h, fun mode hmode hkept => ?_⟩
      exact mem_failedModes_acted hmode fun he => hkept (he ▸ rfl)
  | pass accepts =>
      have hviews := ignoresNotes_failedModes.map_layout s accepts
      obtain ⟨a, ha, hview⟩ := List.mem_map.mp (hviews ▸ List.mem_map_of_mem hh)
      obtain ⟨hid, hfailed⟩ := Prod.mk.inj hview
      exact ⟨a, ha, hid, fun mode hmode _ => hfailed ▸ hmode⟩

/-- As long as a head does not leave, it remembers every refused mode that is not withdrawn. -/
theorem exists_run_of_mem (hs : s.Sound) (hh : h ∈ s.outputs.heads) {moves : List Move}
    (hstays : Move.event (.headFinished h.id) ∉ moves) :
    ∃ a ∈ (s.run moves).outputs.heads, a.id = h.id ∧
      ∀ m ∈ h.failedModes, Move.event (.modeFinished h.id m) ∉ moves → m ∈ a.failedModes := by
  induction moves generalizing s h with
  | nil => exact ⟨h, hh, rfl, fun _ hm _ => hm⟩
  | cons first rest ih =>
      rw [List.mem_cons, not_or] at hstays
      obtain ⟨a, ha, hid, hfailed⟩ := exists_after_of_mem hs hh (Ne.symm hstays.1)
      obtain ⟨b, hb, hbid, hkept⟩ := ih (hs.after first) ha (hid ▸ hstays.2)
      refine ⟨b, hb, hbid.trans hid, fun m hm hnot => ?_⟩
      rw [List.mem_cons, not_or] at hnot
      exact hkept m (hfailed m hm (Ne.symm hnot.1)) (hid ▸ hnot.2)

/-- The failure of a request for a mode is remembered. -/
theorem exists_failed (hs : s.Sound) (hh : h ∈ s.outputs.heads) {m : ModeId}
    (ht : s.transaction = some ⟨some (h.id, m)⟩) :
    ∃ a ∈ (s.react (.resolved .failed)).session.outputs.heads, a.id = h.id ∧
      m ∈ a.failedModes := by
  have hundone : Transaction.undone .failed (some (h.id, m)) h =
      { Transaction.failMode m h with pending := .none } := by
    simp [Transaction.undone]
  have hmem : { Transaction.failMode m h with pending := .none } ∈
      (Transaction.attempted s.outputs .failed (some (h.id, m))).heads :=
    hundone ▸ List.mem_map_of_mem hh
  have hfailed : m ∈ (Transaction.failMode m h).failedModes := mem_insertNew.mpr (Or.inl rfl)
  have hout := outputs_unsuccessful hs.distinct (show Outcome.failed ≠ .succeeded by decide)
  rw [ht] at hout
  rw [hout]
  dsimp only
  split
  · exact ⟨_, hmem, rfl, hfailed⟩
  · exact ⟨_, List.mem_map_of_mem hmem, rfl, hfailed⟩

/-- No request is for a mode that a head knows to be refused. -/
theorem not_mem_sent_of_failed (hs : s.Sound) (hh : h ∈ s.outputs.heads) {m : ModeId}
    (hm : m ∈ h.failedModes) {accepts : Acceptance} {r : Request}
    (hsent : (s.layout accepts).sent = some r) : HeadRequest.mode h.id m ∉ r.heads := by
  obtain ⟨hc, hplan⟩ := plan_of_sent hsent
  have haimed := hs.aimed_heads hc.1
  have hviews := ignoresNotes_failedModes.map_aimed s
  obtain ⟨a, ha, hview⟩ := List.mem_map.mp (hviews ▸ List.mem_map_of_mem hh)
  obtain ⟨hid, hfailed⟩ := Prod.mk.inj hview
  intro hasked
  rcases Request.shape_of_plan haimed hplan with ⟨b, mode, hmode⟩ | hbundle
  · rw [hmode.alone, List.mem_singleton, HeadRequest.mode.injEq] at hasked
    have hb := List.mem_of_find?_eq_some hmode.first
    obtain rfl := List.inj_on_of_nodup_map haimed.distinct ha hb (hid.trans hasked.1)
    exact hmode.untried (hasked.2 ▸ hfailed ▸ hm)
  · exact hbundle.no_mode h.id m hasked

/-- Once a request for a mode of a head was answered with a failure, no later request is for this
mode, whatever has happened since then, unless the mode or the head was withdrawn after the request
was sent. -/
theorem refused_mode_not_asked_again (hs : s.Reachable) {accepts : Acceptance} {r : Request}
    (hsent : (s.layout accepts).sent = some r) {id : HeadId} {m : ModeId}
    (hr : r.heads = [.mode id m]) {between later : List Move}
    (hopen : ∀ outcome, Move.event (.resolved outcome) ∉ between)
    (hhead : Move.event (.headFinished id) ∉ between ++ later)
    (hmode : Move.event (.modeFinished id m) ∉ between ++ later) :
    let t := (s.layout accepts).session.run (between ++ .event (.resolved .failed) :: later)
    ∀ accepts r, (t.layout accepts).sent = some r → HeadRequest.mode id m ∉ r.heads := by
  intro t accepts' r' hsent'
  rw [List.mem_append, not_or] at hhead hmode
  have hreach := hs.layout accepts
  obtain ⟨h, hh, rfl⟩ : ∃ h ∈ (s.layout accepts).session.outputs.heads, h.id = id := by
    obtain ⟨_, hplan⟩ := plan_of_sent hsent
    have hview : IgnoresNotes Head.id := fun _ _ _ _ _ _ _ => rfl
    have hids := (hview.map_layout s accepts).trans (hview.map_aimed s).symm
    have hnamed := (Request.sublist_of_plan hplan).2.subset
    exact List.mem_map.mp (hids ▸ hnamed (by rw [hr]; exact List.mem_singleton_self id))
  have ht : (s.layout accepts).session.transaction = some ⟨some (h.id, m)⟩ := by
    cases s.layout_ending accepts with
    | sending q _ _ _ hp hq =>
        obtain rfl := Option.some.inj (hq.symm.trans hsent)
        rw [hp, Request.modeChange?, hr]
    | _ => simp_all
  -- While nobody answers, the request stays open and the head stays there.
  have hstatus : (s.layout accepts).session.status = .outstanding :=
    status_layout_of_sent (by rw [hsent]; rfl)
  have htransaction := (transaction_run_of_no_answer hstatus hopen).trans ht
  obtain ⟨a, ha, hid, _⟩ := exists_run_of_mem hreach.sound hh hhead.1
  have hbefore := (hreach.run between).sound.record (.resolved .failed)
  obtain ⟨b, hb, hbid, hfailed⟩ := exists_failed hbefore ha (by rw [hid]; exact htransaction)
  have hbh : b.id = h.id := hbid.trans hid
  -- From then on the head remembers the mode.
  have hrun : t = (((s.layout accepts).session.run between).handle
      (.resolved .failed)).session.run later := by
    simp only [t, run_append, run_cons, after]
  have hremembered : ∃ c ∈ t.outputs.heads, c.id = b.id ∧ m ∈ c.failedModes := by
    rw [← hbh] at hhead hmode
    obtain ⟨c, hc, hcid, hkept⟩ := exists_run_of_mem (hbefore.answered .failed) hb hhead.2
    exact ⟨c, hrun ▸ hc, hcid, hkept m hfailed hmode.2⟩
  obtain ⟨c, hc, hcid, hstill⟩ := hremembered
  have hnever := not_mem_sent_of_failed (hreach.run _).sound hc hstill hsent'
  rw [hcid, hbh] at hnever
  exact hnever

/-- A head with two modes that is on in the one that is not preferred. -/
def twoModesAnnounced : Session :=
  (start .default ⟨"cfg.toml", true, none⟩ false).run
    [.event (.headArrived ⟨1⟩), .event (.modeArrived ⟨1⟩ ⟨10⟩),
      .event (.modeReported ⟨1⟩ ⟨10⟩ (.size 1280 720)), .event (.modeArrived ⟨1⟩ ⟨11⟩),
      .event (.modeReported ⟨1⟩ ⟨11⟩ (.size 3840 2160)),
      .event (.modeReported ⟨1⟩ ⟨11⟩ .preferred), .event (.headReported ⟨1⟩ (.enabled true)),
      .event (.headReported ⟨1⟩ (.currentMode ⟨10⟩)), .event (.headReported ⟨1⟩ (.position 0 0)),
      .event (.managerDone 1)]

/-- The preferred mode is refused while the lid is closed. It is not asked for again, though the
head is then reported to be in it, the other mode is withdrawn and the lid is opened. -/
theorem refused_mode_not_asked_again_twoModes :
    twoModesAnnounced.Reachable ∧
      (twoModesAnnounced.layout .always).sent = some ⟨1, [.mode ⟨1⟩ ⟨11⟩]⟩ ∧
      ∀ accepts r,
        (((twoModesAnnounced.layout .always).session.run
          ([.event (.lidChanged true)] ++ .event (.resolved .failed) ::
            [.event (.headReported ⟨1⟩ (.currentMode ⟨11⟩)), .event (.modeFinished ⟨1⟩ ⟨10⟩),
              .event (.lidChanged false)])).layout accepts).sent = some r →
          HeadRequest.mode ⟨1⟩ ⟨11⟩ ∉ r.heads := by
  have hreach : twoModesAnnounced.Reachable := ⟨_, _, _, _, rfl⟩
  have hsent : (twoModesAnnounced.layout .always).sent = some ⟨1, [.mode ⟨1⟩ ⟨11⟩]⟩ := by decide
  exact ⟨hreach, hsent, refused_mode_not_asked_again hreach hsent rfl (by simp) (by simp) (by simp)⟩

end Session

end OutputArranger
