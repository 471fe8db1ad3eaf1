import OutputArranger.Proofs.Session.WantedMode

/-!
# Heads share the failures that are allowed

Failures in a row are counted for all heads together, while modes are tried one after another for
the first head that needs one. So a head all of whose modes fail holds the others up only for as
long as it has modes, if these are few enough. If they are more than the failures that are allowed,
all changes are given up, and only the heads that were discovered before have had their turn.
-/

namespace OutputArranger.Session

/-! ## Giving up for one head -/

/-- After a request has failed, and as long as another attempt is allowed, the layout is computed
anew with one mode less. -/
theorem failed_state {s : Session} (hs : s.Reachable) (hc : s.computes) {r : Request}
    (hplan : Request.plan s.aimed.outputs.heads s.aimed.outputs.serial = some r)
    (hleft : s.aimed.outputs.retries + 1 ≤ maxRetries) :
    let t := ((s.layout .always).session.handle (.resolved .failed)).session
    t.computes ∧ t.aimed.outputs.retries = s.aimed.outputs.retries + 1 ∧
      t.aimed.outputs.heads =
        Layout.desire s.config
          (s.aimed.outputs.heads.map (Transaction.undone .failed r.modeChange?)) := by
  intro t
  have hp := (layout_of_plan_some hc hplan .always rfl).1
  have hsound := (hs.layout .always).sound.record (.resolved .failed)
  have hfailed : Outcome.failed ≠ .succeeded := by decide
  have hretries : (s.layout .always).session.outputs.retries = s.aimed.outputs.retries := by
    rw [hp, Request.foldl_mark_eq]
  have hready : t.ready = true := (hs.layout .always).sound.ready (by rw [hp]; rfl)
  have hconfig : t.config = s.config := by
    change (s.layout .always).session.config = s.config
    rw [hp]
    exact s.refreshed_environment.1
  have hnews : t.hasNews = false :=
    (hasNews_unsuccessful hsound.distinct hfailed).trans (s.layout_news .always).1
  have hcover : t.coverChanges = false :=
    (coverChanges_unsuccessful hsound.distinct hfailed).trans (s.layout_news .always).2.1
  have hdirty : t.outputs.isDirty = true := by
    rw [← decide_eq_true hleft, ← hretries]
    exact isDirty_unsuccessful hsound.distinct hfailed
  have hcount : t.outputs.retries = s.aimed.outputs.retries + 1 := by
    rw [← hretries]
    exact retries_unsuccessful hsound.distinct hfailed
  have hheads : t.outputs.heads =
      s.aimed.outputs.heads.map (Transaction.undone .failed r.modeChange?) := by
    have hattempt := outputs_unsuccessful hsound.distinct hfailed
    have hchange : ((s.layout .always).session.record (.resolved .failed)).transaction =
        some ⟨r.modeChange?⟩ := by rw [hp]; rfl
    rw [hchange] at hattempt
    have hagain : ((s.layout .always).session.record (.resolved .failed)).outputs.retries + 1 ≤
        maxRetries := by
      change (s.layout .always).session.outputs.retries + 1 ≤ maxRetries
      omega
    rw [← Request.map_foldl_mark (Transaction.undone_pending .failed r.modeChange?) r.heads]
    exact congrArg Outputs.heads (hattempt.trans (if_pos hagain)) |>.trans (by rw [hp]; rfl)
  refine ⟨?_, ?_, ?_⟩
  · exact computes_of_owed (by simp [t, handle, react, resolve, quiet, Status.ofOutcome])
      (by simp [t, handle, react, resolve, quiet, Status.ofOutcome]) hready (Or.inl hdirty)
  · have hfresh := t.refreshed_news.2
    rw [hnews, if_neg (by simp), hcount] at hfresh
    exact hfresh
  · rw [heads_aimed hcover, hconfig, hheads, List.map_map]
    congr 1
    refine List.map_congr_left fun h hh => ?_
    have hclean : (Transaction.undone .failed r.modeChange? h).dirty = false :=
      (Transaction.view_undone (g := Head.dirty) (fun _ _ _ _ => rfl) _ _ h).trans
        (dirty_of_mem_aimed hh)
    rw [Function.comp_apply, ← hclean]

/-- When the first head that needs a mode is refused one, the changes are given up, or it is still
the first one and has one usable mode less. -/
theorem failing_round {s : Session} (hs : s.Reachable) (hc : s.computes) {a : Head}
    (hfirst : s.aimed.outputs.heads.find? Request.needsMode = some a) :
    ∃ m, (s.layout .always).sent = some ⟨s.aimed.outputs.serial, [.mode a.id m]⟩ ∧
      (s.layout .always).session.FailsOnly a.id (.event (.resolved .failed)) ∧
      let t := ((s.layout .always).session.handle (.resolved .failed)).session
      (maxRetries < s.aimed.outputs.retries + 1 → t.abandoned = true) ∧
        (s.aimed.outputs.retries + 1 ≤ maxRetries → 2 ≤ a.usableModes.length →
          t.computes ∧ t.aimed.outputs.retries = s.aimed.outputs.retries + 1 ∧
            ∃ b, t.aimed.outputs.heads.find? Request.needsMode = some b ∧ b.id = a.id ∧
              b.usableModes.length + 1 = a.usableModes.length) := by
  have haimed := hs.sound.aimed_heads hc.1
  have hmem : a ∈ s.aimed.outputs.heads := List.mem_of_find?_eq_some hfirst
  have hneeds : Request.needsMode a = true := List.find?_some hfirst
  rw [Request.needsMode, Bool.and_eq_true] at hneeds
  obtain ⟨m, hm, hmode⟩ := haimed.exists_mode hmem hneeds.1
  have hplan := Request.plan_of_find? s.aimed.outputs.serial hfirst hmode
  obtain ⟨hp, hsent⟩ := layout_of_plan_some hc hplan .always rfl
  have ht : (s.layout .always).session.transaction = some ⟨some (a.id, m.id)⟩ := by rw [hp]; rfl
  refine ⟨m.id, hsent, ⟨_, ht, by simp [Transaction.isFor]⟩, ?_, ?_⟩
  · intro hspent
    have hdistinct := ((hs.layout .always).sound.record (.resolved .failed)).distinct
    refine (abandoned_unsuccessful hdistinct (by decide)).trans (decide_eq_true ?_)
    change maxRetries < (s.layout .always).session.outputs.retries + 1
    rw [hp, Request.foldl_mark_eq]
    exact hspent
  · intro hleft hmany
    obtain ⟨hnext, hretries, hheads⟩ := failed_state hs hc hplan hleft
    have hnodup : (a.modes.map (·.id)).Nodup :=
      forall_mem_of_map_eq (lasting_nodup_modes.ignoresNotes.map_aimed s)
        (hs.forall_heads lasting_nodup_modes) a hmem
    have hfewer := Head.length_usableModes_failMode hnodup hm
    have hother : (Transaction.failMode m.id a).usableModes ≠ [] :=
      List.ne_nil_of_length_pos (by omega)
    obtain ⟨b, hfind, hid, husable⟩ := Request.find?_needsMode_refused haimed hfirst hother
    exact ⟨hnext, hretries, b, hheads ▸ hfind, hid, husable ▸ hfewer⟩

/-- If the first head that needs a mode has more of them than failures are allowed, there may be
nothing but failures for that head until the changes are given up. -/
theorem exists_giving_up {s : Session} (hs : s.Reachable) (hc : s.computes) {a : Head}
    (hfirst : s.aimed.outputs.heads.find? Request.needsMode = some a)
    (hmany : maxRetries < s.aimed.outputs.retries + a.usableModes.length) :
    ∃ moves, s.Throughout (FailsOnly a.id) moves ∧ s.Sometime GivingUp moves ∧
      (∀ r ∈ s.requests moves, ∃ m, r.heads = [.mode a.id m]) ∧
      (s.requests moves).length ≤ maxRetries - s.aimed.outputs.retries + 1 := by
  -- Every failure leaves one attempt less.
  induction hk : maxRetries + 1 - s.aimed.outputs.retries using Nat.strongRecOn
    generalizing s a with
  | ind k ih =>
      obtain ⟨m, hsent, hfails, hgiven, hagain⟩ := failing_round hs hc hfirst
      have hreach : ((s.layout .always).session.handle (.resolved .failed)).session.Reachable :=
        (hs.layout .always).run [.event (.resolved .failed)]
      have hrequests (rest : List Move) :
          s.requests (.pass .always :: .event (.resolved .failed) :: rest) =
            ⟨s.aimed.outputs.serial, [.mode a.id m]⟩ ::
              ((s.layout .always).session.handle (.resolved .failed)).session.requests rest := by
        simp only [requests, hsent, Option.toList_some, List.singleton_append]
      by_cases hleft : s.aimed.outputs.retries + 1 ≤ maxRetries
      · obtain ⟨hnext, hretries, b, hfind, hid, hfewer⟩ := hagain hleft (by omega)
        obtain ⟨moves, hall, hgiving, hown, hlength⟩ :=
          ih _ (by omega) hreach hnext hfind (by omega) rfl
        refine ⟨.pass .always :: .event (.resolved .failed) :: moves,
          ⟨trivial, hfails, hid ▸ hall⟩, Or.inr (Or.inr hgiving), ?_, ?_⟩
        · rw [hrequests, List.forall_mem_cons]
          exact ⟨⟨m, rfl⟩, hid ▸ hown⟩
        · rw [hrequests, List.length_cons]
          omega
      · refine ⟨[.pass .always, .event (.resolved .failed)], ⟨trivial, hfails, trivial⟩,
          Or.inr (Or.inl (hgiven (by omega))), ?_, ?_⟩
        · rw [hrequests, List.forall_mem_cons]
          exact ⟨⟨m, rfl⟩, by simp [requests]⟩
        · rw [hrequests, List.length_cons]
          simp [requests]

/-! ## Who is waited for -/

/-- A head is waited for when it is not the first one to get a mode, if it has few usable modes. -/
theorem not_sometime_givingUp_layout {s : Session} (hs : s.Reachable) (hc : s.computes) {a : Head}
    (ha : a ∈ s.outputs.heads) (hlater : s.outputs.heads.find? s.wantsOther ≠ some a)
    (hfew : a.usableModes.length ≤ maxRetries) {moves : List Move}
    (hm : (s.layout .always).session.Throughout (FailsOnly a.id) moves) :
    ¬ (s.layout .always).session.Sometime GivingUp moves := by
  have hmem := List.mem_map_of_mem (f := fun h : Head => (h.id, h.usableModes)) ha
  rw [← ignoresNotes_usableModes.map_aimed s] at hmem
  obtain ⟨b, hb, hsame⟩ := List.mem_map.mp hmem
  obtain ⟨hid, hmodes⟩ := Prod.mk.inj hsame
  cases hneeds : Request.needsMode b with
  | true =>
      have hnot : s.aimed.outputs.heads.find? Request.needsMode ≠ some b := by
        intro hfirst
        have hfound := find?_wantsOther hs.sound hc.1
        rw [hfirst, Option.map_some, hsame, eq_comm, Option.map_eq_some_iff] at hfound
        obtain ⟨c, hfind, hown⟩ := hfound
        have hsame : c = a := List.inj_on_of_nodup_map hs.sound.distinct
          (List.mem_of_find?_eq_some hfind) ha (congrArg Prod.fst hown)
        exact hlater (hsame ▸ hfind)
      rw [← hid] at hm
      exact (patient_layout hs hc hb hneeds hnot (hmodes ▸ hfew)).not_sometime_givingUp hm
  | false =>
      have hidle : ∀ m, s.transaction ≠ some ⟨some (a.id, m)⟩ := by
        simp [hs.sound.transaction_eq_none hc.1]
      have hunasked := unasked_of_mem hs ha a.id hidle hidle
      rw [← hunasked.needsMode_eq hc.1 hb hid, hneeds] at hunasked
      have hnext := (hunasked.after_content (m := .pass .always) trivial).1
      exact not_sometime_of_preserved (fun _ _ h => h.after_content) hnext hm

/-- Requests for modes of one head fail and all others succeed. The changes are never given up if
the head has no more usable modes than failures are allowed, those before included that still count,
or if it shall not be in another mode. When the layout is computed and another head needs a mode
first, those before do not count. If the head is the first one that needs a mode and has more, the
changes may be given up before any other head was named. But however many it has, a head that was
discovered before and needs a mode has been named by then. -/
theorem failing_head_given_up {s : Session} (hs : s.Reachable) {a : Head}
    (ha : a ∈ s.outputs.heads) :
    (s.spent a.id + s.attempts a ≤ maxRetries ∨
          s.wantsOther a = false ∧ (∀ m, s.transaction ≠ some ⟨some (a.id, m)⟩) →
        ∀ moves, s.Throughout (FailsOnly a.id) moves → ¬ s.Sometime GivingUp moves) ∧
      (s.computes → s.outputs.heads.find? s.wantsOther ≠ some a →
        a.usableModes.length ≤ maxRetries →
        ∀ moves, (s.layout .always).session.Throughout (FailsOnly a.id) moves →
          ¬ (s.layout .always).session.Sometime GivingUp moves) ∧
      (s.computes → s.outputs.heads.find? s.wantsOther = some a →
        maxRetries < s.spent a.id + s.attempts a →
        ∃ moves, s.Throughout (FailsOnly a.id) moves ∧ s.Sometime GivingUp moves ∧
          (∀ r ∈ s.requests moves, ∃ m, r.heads = [.mode a.id m]) ∧
          (s.requests moves).length ≤ maxRetries + 1) ∧
      (s.transaction = none → ∀ b ∈ s.outputs.heads, s.wantsOther b = true →
        s.outputs.ids.idxOf b.id < s.outputs.ids.idxOf a.id →
        ∀ moves, s.Throughout (FailsOnly a.id) moves → s.Sometime GivingUp moves →
          ∃ r ∈ s.requests moves, b.id ∈ r.heads.map HeadRequest.head) := by
  refine ⟨?_, fun hc hlater hfew moves => not_sometime_givingUp_layout hs hc ha hlater hfew, ?_, ?_⟩
  · rintro (hroom | ⟨hstays, hidle⟩) moves hm
    · exact Patient.not_sometime_givingUp ⟨hs, a, ha, rfl, hroom⟩ hm
    · have hunasked := unasked_of_mem hs ha a.id hidle hidle
      rw [hstays] at hunasked
      exact not_sometime_of_preserved (fun _ _ h => h.after_content) hunasked hm
  · intro hc hfirst hmany
    have hclosed := hs.sound.transaction_eq_none hc.1
    obtain ⟨b, hfind, hsame⟩ := Option.map_eq_some_iff.mp
      ((find?_wantsOther hs.sound hc.1).trans (congrArg _ hfirst))
    obtain ⟨hid, hmodes⟩ := Prod.mk.inj hsame
    rw [spent_of_closed hclosed, attempts_of_not_stale (by simp [hclosed]), ← hmodes] at hmany
    obtain ⟨moves, hall, hgiving, hown, hlength⟩ := exists_giving_up hs hc hfind hmany
    rw [hid] at hall hown
    exact ⟨moves, hall, hgiving, hown, by omega⟩
  · intro hclosed b hb hwants hlt moves hm hgiving
    have hunasked := unasked_of_mem hs hb a.id (by simp [hclosed]) (by simp [hclosed])
    rw [hwants] at hunasked
    by_contra hunnamed
    exact hunasked.run_ahead hlt hm (fun r hr hnamed => hunnamed ⟨r, hr, hnamed⟩) hgiving

/-- The modes of a head arrive, with their sizes. -/
def announceModes (id : HeadId) (modes : List (ModeId × Int × Int)) : List Event :=
  modes.flatMap fun m => [.modeArrived id m.1, .modeReported id m.1 (.size m.2.1 m.2.2)]

/-- A head arrives that is off. -/
def arrivesOff (id : HeadId) (modes : List (ModeId × Int × Int)) : List Event :=
  [.headArrived id] ++ announceModes id modes ++ [.headReported id (.enabled false)]

/-- A head arrives that is on in its only mode, but not where it shall be. -/
def arrivesElsewhere (id : HeadId) (m : ModeId) : List Event :=
  [.headArrived id] ++ announceModes id [(m, 1920, 1080)] ++
    [.headReported id (.enabled true), .headReported id (.currentMode m),
      .headReported id (.position 0 500)]

def arrived (events : List Event) : Session :=
  (start .default ⟨"cfg.toml", true, none⟩ false).run
    ((events ++ [Event.managerDone 1]).map .event)

theorem arrived_reachable (events : List Event) : (arrived events).Reachable := ⟨_, _, _, _, rfl⟩

theorem arrived_computes {events : List Event}
    (h : ((arrived events).ready && (arrived events).outputs.isDirty &&
      (arrived events).status == .idle) = true) : (arrived events).computes := by
  rw [Bool.and_eq_true, Bool.and_eq_true, beq_iff_eq] at h
  exact computes_of_owed (by simp [h.2]) (by simp [h.2]) h.1.1 (Or.inl h.1.2)

def fourModes : List (ModeId × Int × Int) :=
  [(⟨10⟩, 3840, 2160), (⟨11⟩, 2560, 1440), (⟨12⟩, 1920, 1080), (⟨13⟩, 1280, 720)]

/-- A head that needs a mode, and one that is only to be moved. -/
def besideOther (modes : List (ModeId × Int × Int)) : Session :=
  arrived (arrivesOff ⟨1⟩ modes ++ arrivesElsewhere ⟨2⟩ ⟨20⟩)

theorem besideOther_reachable (modes : List (ModeId × Int × Int)) :
    (besideOther modes).Reachable := arrived_reachable _

/-- Two heads that need a mode. -/
def behindOther : Session :=
  arrived (arrivesOff ⟨1⟩ [(⟨14⟩, 1024, 768)] ++ arrivesOff ⟨2⟩ fourModes)

theorem behindOther_reachable : behindOther.Reachable := arrived_reachable _

/-- Three modes of the first head may fail, but not four, and those of the other head may. If the
four modes are those of the other head, the first one is named before. -/
theorem failing_head_given_up_besideOther :
    (∀ moves, (besideOther fourModes.tail).Throughout (FailsOnly ⟨1⟩) moves →
        ¬ (besideOther fourModes.tail).Sometime GivingUp moves) ∧
      (∀ moves, ((besideOther fourModes).layout .always).session.Throughout (FailsOnly ⟨2⟩) moves →
        ¬ ((besideOther fourModes).layout .always).session.Sometime GivingUp moves) ∧
      (∃ moves, (besideOther fourModes).Throughout (FailsOnly ⟨1⟩) moves ∧
        (besideOther fourModes).Sometime GivingUp moves ∧
        (∀ r ∈ (besideOther fourModes).requests moves, ∃ m, r.heads = [.mode ⟨1⟩ m]) ∧
        ((besideOther fourModes).requests moves).length ≤ maxRetries + 1) ∧
      ∀ moves, behindOther.Throughout (FailsOnly ⟨2⟩) moves → behindOther.Sometime GivingUp moves →
        ∃ r ∈ behindOther.requests moves, ⟨1⟩ ∈ r.heads.map HeadRequest.head := by
  have hcomputes : (besideOther fourModes).computes := arrived_computes (by decide)
  have hfirst : ((besideOther fourModes).outputs.heads.find?
      (besideOther fourModes).wantsOther).map (·.id) = some ⟨1⟩ := by decide
  refine ⟨?_, ?_, ?_, ?_⟩
  · obtain ⟨a, ha, hid, hroom⟩ : ∃ a ∈ (besideOther fourModes.tail).outputs.heads, a.id = ⟨1⟩ ∧
        (besideOther fourModes.tail).spent ⟨1⟩ + (besideOther fourModes.tail).attempts a ≤
          maxRetries := by decide
    obtain ⟨h, _⟩ := failing_head_given_up (besideOther_reachable _) ha
    rw [hid] at h
    exact h (Or.inl hroom)
  · obtain ⟨a, ha, hid, hfew⟩ : ∃ a ∈ (besideOther fourModes).outputs.heads, a.id = ⟨2⟩ ∧
        a.usableModes.length ≤ maxRetries := by decide
    have hlater : (besideOther fourModes).outputs.heads.find? (besideOther fourModes).wantsOther ≠
        some a := by
      intro h
      rw [h, Option.map_some, hid] at hfirst
      exact absurd hfirst (by decide)
    obtain ⟨_, h, _⟩ := failing_head_given_up (besideOther_reachable _) ha
    rw [hid] at h
    exact h hcomputes hlater hfew
  · obtain ⟨a, hfind, hid⟩ := Option.map_eq_some_iff.mp hfirst
    have hmany : ∀ a ∈ (besideOther fourModes).outputs.heads, a.id = ⟨1⟩ →
        maxRetries < (besideOther fourModes).spent ⟨1⟩ + (besideOther fourModes).attempts a := by
      decide
    have ha := List.mem_of_find?_eq_some hfind
    obtain ⟨_, _, h, _⟩ := failing_head_given_up (besideOther_reachable _) ha
    rw [hid] at h
    exact h hcomputes hfind (hmany a ha hid)
  · obtain ⟨a, ha, hid⟩ : ∃ a ∈ behindOther.outputs.heads, a.id = ⟨2⟩ := by decide
    obtain ⟨b, hb, hbid, hwants⟩ : ∃ b ∈ behindOther.outputs.heads, b.id = ⟨1⟩ ∧
        behindOther.wantsOther b = true := by decide
    obtain ⟨_, _, _, h⟩ := failing_head_given_up behindOther_reachable ha
    have hnamed := h (by decide) b hb hwants
    rw [hid, hbid] at hnamed
    exact hnamed (by decide)

/-- Both heads are to change. The four modes of the first one fail one after another, and all
changes are given up although the second one was not named in any request. -/
theorem besideOther_given_up :
    let s := besideOther fourModes
    let moves := (List.replicate 4 [Move.pass .always, .event (.resolved .failed)]).flatten
    s.Reachable ∧ s.computes ∧
      (s.aimed.outputs.heads.map fun h => (h.id, h.isChanging)) = [(⟨1⟩, true), (⟨2⟩, true)] ∧
      s.Throughout (FailsOnly ⟨1⟩) moves ∧ s.Sometime GivingUp moves ∧
      (s.requests moves).map (·.heads) =
        [[.mode ⟨1⟩ ⟨10⟩], [.mode ⟨1⟩ ⟨11⟩], [.mode ⟨1⟩ ⟨12⟩], [.mode ⟨1⟩ ⟨13⟩]] := by
  intro s moves
  have hgiven : ((s.run (moves.take 7)).handle (.resolved .failed)).session.abandoned = true := by
    decide
  refine ⟨besideOther_reachable _, arrived_computes (by decide), by decide, ?_, ?_, by decide⟩
  · exact ⟨trivial, ⟨⟨some (⟨1⟩, ⟨10⟩)⟩, by decide, rfl⟩,
      trivial, ⟨⟨some (⟨1⟩, ⟨11⟩)⟩, by decide, rfl⟩,
      trivial, ⟨⟨some (⟨1⟩, ⟨12⟩)⟩, by decide, rfl⟩,
      trivial, ⟨⟨some (⟨1⟩, ⟨13⟩)⟩, by decide, rfl⟩, trivial⟩
  · have hsplit : moves = moves.take 7 ++ [.event (.resolved .failed)] := rfl
    rw [hsplit]
    exact sometime_append.mpr (Or.inr (Or.inl hgiven))

end OutputArranger.Session
