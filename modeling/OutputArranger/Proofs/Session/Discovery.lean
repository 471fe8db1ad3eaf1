import Mathlib.Data.List.Induction
import OutputArranger.Proofs.Session.Inventory

/-!
# What is noted twice

Some facts about the outputs are kept in two places. The heads stand in the order in which they
arrived, and those that have not been reported yet are listed once more. Which mode of a head is
preferred is noted in the mode and in the head. The places are written by different events, and
announcements of what is there already, marks on modes that are not, and withdrawals from the middle
may come in any order; the places agree all the same.
-/

namespace OutputArranger

namespace Head

/-- The modes of a head, each with its mark. -/
def marks (h : Head) : List (ModeId × Bool) := h.modes.map fun m => (m.id, m.preferred)

/-- The head refers to its preferred mode, and that mode alone is marked. -/
structure Marked (h : Head) : Prop where
  distinct : (h.marks.map Prod.fst).Nodup
  preferred_iff : ∀ id, h.preferredMode = some id ↔ (id, true) ∈ h.marks

variable {g h : Head} {m : ModeId}

theorem map_fst_marks (h : Head) : h.marks.map Prod.fst = h.modes.map (·.id) := by
  simp only [marks, List.map_map]
  rfl

theorem mem_marks {id : ModeId} {preferred : Bool} :
    (id, preferred) ∈ h.marks ↔ ∃ m ∈ h.modes, m.id = id ∧ m.preferred = preferred := by
  simp only [marks, List.mem_map, Prod.mk.injEq]

theorem Marked.congr (hh : h.Marked) (hmarks : g.marks = h.marks)
    (hpreferred : g.preferredMode = h.preferredMode) : g.Marked := by
  constructor
  · rw [hmarks]
    exact hh.distinct
  · rw [hmarks, hpreferred]
    exact hh.preferred_iff

theorem Marked.eq_of_preferred (hh : h.Marked) {m n : Mode} (hm : m ∈ h.modes) (hn : n ∈ h.modes)
    (hpm : m.preferred = true) (hpn : n.preferred = true) : m = n := by
  have hmark : h.preferredMode = some m.id :=
    (hh.preferred_iff m.id).mpr (mem_marks.mpr ⟨m, hm, rfl, hpm⟩)
  have hnmark : h.preferredMode = some n.id :=
    (hh.preferred_iff n.id).mpr (mem_marks.mpr ⟨n, hn, rfl, hpn⟩)
  have hdistinct : (h.modes.map (·.id)).Nodup := h.map_fst_marks ▸ hh.distinct
  exact List.inj_on_of_nodup_map hdistinct hm hn (Option.some.inj (hmark.symm.trans hnmark))

theorem Marked.arriveMode (hh : h.Marked) (m : ModeId) : (Session.arriveMode m h).Marked := by
  have hsame : (Session.arriveMode m h).preferredMode = h.preferredMode := by
    unfold Session.arriveMode addMode
    split <;> rfl
  by_cases hknown : (h.mode? m).isSome = true
  · refine hh.congr ?_ hsame
    simp only [marks, Session.arriveMode, addMode, hknown, if_true]
  · have hmarks : (Session.arriveMode m h).marks = h.marks ++ [(m, false)] := by
      simp only [marks, Session.arriveMode, addMode, hknown, Bool.false_eq_true, if_false,
        List.map_append]
      rfl
    have hnew : m ∉ h.marks.map Prod.fst := by
      rw [map_fst_marks, ← mode?_isSome_iff]
      exact hknown
    constructor
    · rw [hmarks, List.map_append, List.nodup_append]
      refine ⟨hh.distinct, List.nodup_singleton m, ?_⟩
      rintro a ha b hb rfl
      obtain rfl : a = m := List.mem_singleton.mp hb
      exact hnew ha
    · intro id
      rw [hsame, hmarks, hh.preferred_iff, List.mem_append]
      simp

theorem Marked.setPreferred (hh : h.Marked) (m : ModeId) : (h.setPreferred m).Marked := by
  by_cases hknown : (h.mode? m).isSome = true
  · have hmarks : (h.setPreferred m).marks = h.marks.map fun a => (a.1, decide (a.1 = m)) := by
      simp only [marks, Head.setPreferred, hknown, if_true, List.map_map]
      rfl
    have hpreferred : (h.setPreferred m).preferredMode = some m := by
      simp only [Head.setPreferred, hknown, if_true]
    have hoffered : m ∈ h.marks.map Prod.fst := by
      rw [map_fst_marks, ← mode?_isSome_iff]
      exact hknown
    constructor
    · rw [hmarks, List.map_map]
      exact hh.distinct
    · intro id
      rw [hpreferred, hmarks]
      simp only [Option.some.injEq, List.mem_map, Prod.mk.injEq, decide_eq_true_eq]
      constructor
      · rintro rfl
        obtain ⟨a, ha, hid⟩ := List.mem_map.mp hoffered
        exact ⟨a, ha, hid, hid⟩
      · rintro ⟨a, _, hid, hm⟩
        exact hm.symm.trans hid
  · simp only [Head.setPreferred, hknown, Bool.false_eq_true, if_false]
    exact hh

theorem Marked.reportMode (hh : h.Marked) (m : ModeId) (r : ModeReport) :
    (Session.reportMode m r h).Marked := by
  have kept (r : ModeReport) :
      (h.updateMode m (Session.reportedMode r)).marks = h.marks := by
    refine map_updateFirst (fun a => (a.id, a.preferred)) (fun a _ => ?_) h.modes
    cases r <;> rfl
  cases r with
  | preferred => exact hh.setPreferred m
  | size width height => exact hh.congr (kept _) rfl
  | refresh rate => exact hh.congr (kept _) rfl

theorem Marked.finishMode (hh : h.Marked) (m : ModeId) : (Session.finishMode m h).Marked := by
  by_cases hknown : (h.mode? m).isSome = true
  · have hdistinct : (h.modes.map (·.id)).Nodup := h.map_fst_marks ▸ hh.distinct
    have hmarks : (Session.finishMode m h).marks = h.marks.filter fun a => decide (a.1 ≠ m) := by
      simp only [marks, Session.finishMode, removeMode, hknown, if_true,
        eraseP_eq_filter hdistinct, List.filter_map]
      rfl
    have hpreferred : (Session.finishMode m h).preferredMode = forget m h.preferredMode := by
      simp only [Session.finishMode, removeMode, hknown, if_true]
    constructor
    · rw [hmarks]
      exact (List.filter_sublist.map Prod.fst).nodup hh.distinct
    · intro id
      rw [hpreferred, hmarks, List.mem_filter, ← hh.preferred_iff, forget]
      simp only [decide_eq_true_eq]
      constructor
      · split
        · simp
        · rename_i hother
          intro hid
          exact ⟨hid, fun hm => hother (hm ▸ hid)⟩
      · rintro ⟨hid, hne⟩
        rw [hid, if_neg (by simpa using hne)]
  · simp only [Session.finishMode, hknown, Bool.false_eq_true, if_false]
    exact hh

end Head

namespace Session

theorem lasting_marked : Lasting Head.Marked where
  blank := fun _ => ⟨List.nodup_nil, fun _ => by simp [Head.blank, Head.marks]⟩
  reported := by
    intro h r hh
    cases r <;> exact hh.congr rfl rfl
  arriveMode := fun _ m hh => hh.arriveMode m
  reportMode := fun _ m r hh => hh.reportMode m r
  finishMode := fun _ m hh => hh.finishMode m
  setMode := fun _ _ hh => hh.congr rfl rfl
  failMode := fun _ _ hh => hh.congr rfl rfl
  noted := fun _ _ _ _ _ _ _ hh => hh.congr rfl rfl

/-! ## Arrivals -/

variable {s first : Session} {moves : List Move} {m : Move} {n : Nat} {id : HeadId}

theorem ids_after (hs : s.Reachable) (m : Move) :
    (s.after m).outputs.ids = match m with
      | .event (.headArrived id) =>
          if id ∈ s.outputs.ids then s.outputs.ids else s.outputs.ids ++ [id]
      | .event (.headFinished id) => s.outputs.ids.filter fun a => decide (a ≠ id)
      | _ => s.outputs.ids := by
  cases m with
  | pass accepts => exact s.ids_layout accepts
  | event e =>
      have hmap {f : HeadId × List ModeId → HeadId × List ModeId} (hf : ∀ o, (f o).1 = o.1) :
          (s.outputs.inventory.map f).map Prod.fst = s.outputs.inventory.map Prod.fst := by
        rw [List.map_map]
        exact List.map_congr_left fun o _ => hf o
      simp only [after, Outputs.ids_eq_map_inventory, inventory_handle hs]
      cases e with
      | headArrived id =>
          simp only [Event.alter]
          split
          · rfl
          · rw [List.map_append]
            rfl
      | headFinished id =>
          simp only [Event.alter, List.filter_map]
          rfl
      | modeArrived id mode =>
          refine hmap fun o => ?_
          split <;> rfl
      | modeFinished id mode =>
          refine hmap fun o => ?_
          split <;> rfl
      | _ => rfl

theorem mem_ids_after (hs : s.Reachable) (hid : id ∈ s.outputs.ids)
    (hm : m ≠ .event (.headFinished id)) : id ∈ (s.after m).outputs.ids := by
  rw [ids_after hs]
  split
  · split
    · exact hid
    · exact List.mem_append_left _ hid
  · rename_i other
    have hne : id ≠ other := fun h => hm (h ▸ rfl)
    exact List.mem_filter.mpr ⟨hid, decide_eq_true hne⟩
  · exact hid

/-- The move at this place of a run announces a head that is not there, and the head is not taken
away after that: of all arrivals of the head it is the latest. -/
structure ArrivedAt (first : Session) (moves : List Move) (n : Nat) (id : HeadId) : Prop where
  announced : moves[n]? = some (.event (.headArrived id))
  new : id ∉ (first.run (moves.take n)).outputs.ids
  stays : ∀ k, n < k → moves[k]? ≠ some (.event (.headFinished id))

theorem ArrivedAt.lt_length (h : ArrivedAt first moves n id) : n < moves.length :=
  (List.getElem?_eq_some_iff.mp h.announced).choose

theorem ArrivedAt.concat (h : ArrivedAt first moves n id) (hm : m ≠ .event (.headFinished id)) :
    ArrivedAt first (moves ++ [m]) n id := by
  have hn := h.lt_length
  constructor
  · rw [List.getElem?_append_left hn]
    exact h.announced
  · rw [List.take_append_of_le_length (by omega)]
    exact h.new
  · intro k hk
    rcases Nat.lt_trichotomy k moves.length with hlt | rfl | hgt
    · rw [List.getElem?_append_left hlt]
      exact h.stays k hk
    · rw [List.getElem?_concat_length]
      simpa using hm
    · rw [List.getElem?_eq_none (by rw [List.length_append, List.length_singleton]; omega)]
      simp

theorem arrivedAt_concat (hnew : id ∉ (first.run moves).outputs.ids) :
    ArrivedAt first (moves ++ [.event (.headArrived id)]) moves.length id := by
  constructor
  · exact List.getElem?_concat_length
  · rw [List.take_append_of_le_length (Nat.le_refl _), List.take_length]
    exact hnew
  · intro k hk
    rw [List.getElem?_eq_none (by rw [List.length_append, List.length_singleton]; omega)]
    simp

theorem run_take_succ (hn : n < moves.length) :
    first.run (moves.take (n + 1)) = (first.run (moves.take n)).after moves[n] := by
  rw [List.take_succ_eq_append_getElem hn, run_append]
  rfl

/-- A head is there from its latest arrival on. -/
theorem ArrivedAt.mem_ids (hfirst : first.Reachable) (h : ArrivedAt first moves n id) {k : Nat}
    (hnk : n < k) (hk : k ≤ moves.length) : id ∈ (first.run (moves.take k)).outputs.ids := by
  induction k with
  | zero => omega
  | succ k ih =>
      have hlt : k < moves.length := by omega
      rw [run_take_succ hlt]
      by_cases hlast : n = k
      · subst hlast
        have hmove : moves[n] = .event (.headArrived id) :=
          Option.some.inj ((List.getElem?_eq_getElem hlt).symm.trans h.announced)
        rw [hmove, ids_after (hfirst.run _)]
        simp [h.new]
      · have hlater : n < k := by omega
        refine mem_ids_after (hfirst.run _) (ih hlater (by omega)) fun hmove => ?_
        exact h.stays k hlater ((List.getElem?_eq_getElem hlt).trans (congrArg some hmove))

/-- A head has one latest arrival. -/
theorem ArrivedAt.unique (hfirst : first.Reachable) {k : Nat} (hn : ArrivedAt first moves n id)
    (hk : ArrivedAt first moves k id) : n = k := by
  rcases Nat.lt_trichotomy n k with hlt | heq | hgt
  · exact absurd (hn.mem_ids hfirst hlt (Nat.le_of_lt hk.lt_length)) hk.new
  · exact heq
  · exact absurd (hk.mem_ids hfirst hgt (Nat.le_of_lt hn.lt_length)) hn.new

/-- The latest arrivals of the heads that are there, in the order of the heads. -/
theorem exists_arrivals (hfirst : first.Reachable) (hempty : first.outputs.ids = [])
    (moves : List Move) :
    ∃ arrivals : List (Nat × HeadId),
      arrivals.map Prod.snd = (first.run moves).outputs.ids ∧
        (arrivals.map Prod.fst).Pairwise (· < ·) ∧
        ∀ a ∈ arrivals, ArrivedAt first moves a.1 a.2 := by
  induction moves using List.reverseRecOn with
  | nil => exact ⟨[], hempty.symm, List.Pairwise.nil, by simp⟩
  | append_singleton moves m ih =>
      obtain ⟨arrivals, hids, hsorted, harrived⟩ := ih
      have hafter := ids_after (hfirst.run moves) m
      have hkept (hm : ∀ a ∈ arrivals, m ≠ .event (.headFinished a.2)) :
          ∀ a ∈ arrivals, ArrivedAt first (moves ++ [m]) a.1 a.2 :=
        fun a ha => (harrived a ha).concat (hm a ha)
      rw [run_append, run_cons, run_nil, hafter]
      split
      · rename_i id
        split
        · exact ⟨arrivals, hids, hsorted, hkept (by simp)⟩
        · rename_i hnew
          refine ⟨arrivals ++ [(moves.length, id)], by simp [hids], ?_, ?_⟩
          · rw [List.map_append, List.pairwise_append]
            refine ⟨hsorted, List.pairwise_singleton _ _, ?_⟩
            intro i hi j hj
            obtain ⟨a, ha, rfl⟩ := List.mem_map.mp hi
            obtain rfl := List.mem_singleton.mp hj
            exact (harrived a ha).lt_length
          · intro a ha
            rcases List.mem_append.mp ha with hold | hlast
            · exact hkept (by simp) a hold
            · obtain rfl := List.mem_singleton.mp hlast
              exact arrivedAt_concat hnew
      · rename_i id
        refine ⟨arrivals.filter fun a => decide (a.2 ≠ id), ?_, ?_, ?_⟩
        · rw [← hids, List.filter_map]
          rfl
        · exact hsorted.sublist (List.filter_sublist.map Prod.fst)
        · intro a ha
          obtain ⟨hmem, hne⟩ := List.mem_filter.mp ha
          refine (harrived a hmem).concat fun hm => ?_
          injection hm with he
          injection he with hid
          exact of_decide_eq_true hne hid.symm
      · rename_i hother
        exact ⟨arrivals, hids, hsorted, hkept fun a _ => hother a.2⟩

/-! ## Heads that are to be reported -/

theorem arrived_react (hs : s.Sound) {e : Event} (harrived : ∀ id, e ≠ .headArrived id)
    (hfinished : ∀ id, e ≠ .headFinished id) :
    (s.react e).session.outputs.arrived = s.outputs.arrived := by
  cases e with
  | headArrived id => exact absurd rfl (harrived id)
  | headFinished id => exact absurd rfl (hfinished id)
  | resolved outcome => exact (arrived_serial_answered hs.distinct outcome).1
  | configChanged c => exact (s.fromOutside_configChanged c).untouched.arrived
  | lidChanged closed => exact (s.fromOutside_lidChanged closed).untouched.arrived
  | command r client => exact (s.fromOutside_command r client).untouched.arrived
  | _ => rfl

theorem arrived_sublist_handle (hs : s.Reachable) (h : s.outputs.arrived.Sublist s.outputs.ids)
    (e : Event) :
    (s.handle e).session.outputs.arrived.Sublist (s.handle e).session.outputs.ids := by
  have hids := ids_after hs (.event e)
  simp only [after] at hids
  rw [hids]
  cases e.traffic with
  | coming id =>
      simp only [handle, react, quiet, Outputs.addHead, record, Outputs.head?_isSome_iff]
      split
      · exact h
      · exact h.append (List.Sublist.refl [id])
  | going id =>
      simp only [handle, react, quiet, Outputs.removeHead, record]
      split
      · rename_i hnone
        have hall : s.outputs.ids.filter (fun a => decide (a ≠ id)) = s.outputs.ids :=
          filter_eq_self_of_notMem (by simpa using Outputs.head?_eq_none_iff.mp hnone)
        rw [hall]
        exact h
      · exact h.filter _
  | staying harrived hfinished =>
      have hsame := arrived_react (hs.sound.record e) harrived hfinished
      rw [handle, hsame]
      cases e with
      | headArrived id => exact absurd rfl (harrived id)
      | headFinished id => exact absurd rfl (hfinished id)
      | _ => exact h

theorem Reachable.arrived_sublist (hs : s.Reachable) : s.outputs.arrived.Sublist s.outputs.ids := by
  have hboth : s.Reachable ∧ s.outputs.arrived.Sublist s.outputs.ids := by
    refine hs.invariant (P := fun s => s.Reachable ∧ s.outputs.arrived.Sublist s.outputs.ids)
      ?_ ?_ ?_
    · exact fun c f r => ⟨⟨c, f, r, [], rfl⟩, List.nil_sublist _⟩
    · exact fun s e h => ⟨h.1.run [.event e], arrived_sublist_handle h.1 h.2 e⟩
    · intro s accepts h
      have hnone : (s.layout accepts).session.outputs.arrived = [] := by
        have hnews := (s.layout_news accepts).1
        rw [hasNews, Bool.or_eq_false_iff, bne_eq_false_iff_eq] at hnews
        exact hnews.1
      refine ⟨h.1.layout accepts, ?_⟩
      rw [hnone]
      exact List.nil_sublist _
  exact hboth.2

/-- Wherever a run leads, the heads differ and stand in the order of their latest arrivals, of which
there is exactly one for each. The modes of a head differ, at most one of them is preferred, and it
is the one to which the head refers as preferred. The heads that are to be reported are heads that
are there, each listed once and in the order of the heads. -/
theorem outputs_in_order (config : Config) (file : ConfigFile) (recorded : Bool)
    (moves : List Move) :
    let first := start config file recorded
    let o := (first.run moves).outputs
    o.ids.Nodup ∧
      (∃ arrivals : List (Nat × HeadId),
        arrivals.map Prod.snd = o.ids ∧ (arrivals.map Prod.fst).Pairwise (· < ·) ∧
          ∀ a ∈ arrivals, ∀ n, ArrivedAt first moves n a.2 ↔ n = a.1) ∧
      (∀ h ∈ o.heads,
        (h.modes.map (·.id)).Nodup ∧
          (∀ m ∈ h.modes, ∀ n ∈ h.modes, m.preferred = true → n.preferred = true → m = n) ∧
          ∀ id, h.preferredMode = some id ↔ ∃ m ∈ h.modes, m.id = id ∧ m.preferred = true) ∧
      o.arrived.Nodup ∧ o.arrived.Sublist o.ids := by
  intro first o
  have hfirst : first.Reachable := ⟨config, file, recorded, [], rfl⟩
  have hs : (first.run moves).Reachable := hfirst.run moves
  have hdistinct : o.ids.Nodup := hs.sound.distinct
  have harrived : o.arrived.Sublist o.ids := hs.arrived_sublist
  refine ⟨hdistinct, ?_, ?_, harrived.nodup hdistinct, harrived⟩
  · obtain ⟨arrivals, hids, hsorted, hat⟩ := exists_arrivals hfirst rfl moves
    refine ⟨arrivals, hids, hsorted, fun a ha n => ⟨fun hn => hn.unique hfirst (hat a ha), ?_⟩⟩
    rintro rfl
    exact hat a ha
  · intro h hh
    have hmarked : h.Marked := hs.forall_heads lasting_marked h hh
    refine ⟨hs.nodup_modes hh, fun m hm n hn => hmarked.eq_of_preferred hm hn, fun id => ?_⟩
    rw [hmarked.preferred_iff, Head.mem_marks]

end Session

end OutputArranger
