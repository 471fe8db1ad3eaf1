import OutputArranger.Proofs.Fulfilment
import OutputArranger.Proofs.Layout.ModeChoice

/-!
# What is asked for, said and marked

What a request changes is worked out three times: when it is planned, when it is said what is about
to change, and when the changes are marked as pending. For heads in any state the three differ,
since a change of mode is said of heads that shall be off too, and a head that is off can be asked
to switch off. For heads about which the layout has just decided they tell the same.
-/

namespace OutputArranger

open Layout (Aimed)

/-! ## What is said -/

/-- One of these lines begins like this. -/
def Mentions (start : String) (lines : List String) : Prop :=
  ∃ line ∈ lines, start.toList <+: line.toList

section Mentions

variable {start line : String} {first second : List String}

theorem mentions_append :
    Mentions start (first ++ second) ↔ Mentions start first ∨ Mentions start second := by
  simp only [Mentions, List.mem_append, or_and_right, exists_or]

theorem mentions_ite {c : Prop} [Decidable c] :
    Mentions start (if c then [] else [line]) ↔ ¬ c ∧ start.toList <+: line.toList := by
  by_cases hc : c <;> simp [Mentions, hc]

theorem Mentions.ne_nil (h : Mentions start first) : first ≠ [] := by
  obtain ⟨_, hline, _⟩ := h
  exact List.ne_nil_of_mem hline

end Mentions

namespace Head

variable {h : Head}

theorem changeLines_of_modeChanging (hmode : h.isModeChanging = true) :
    ∃ line, h.changeLines = [line] ∧ "  mode:".toList <+: line.toList := by
  simp only [changeLines, hmode, if_true, List.cons.injEq, and_true]
  refine ⟨_, rfl, ?_⟩
  simp only [String.toList_append, List.append_assoc]
  exact ⟨"     ".toList ++ _, rfl⟩

theorem changeLines_of_off (hmode : h.isModeChanging = false) (hoff : h.desired.enabled = false)
    (hon : h.enabled = true) : h.changeLines = ["  (disabled)"] := by
  simp [changeLines, hmode, hoff, hon]

/-- Of a head that shall be on, each kind of change but that of its mode has its line. -/
theorem mentions_changeLines (hmode : h.isModeChanging = false) (hon : h.desired.enabled = true) :
    ¬ Mentions "  mode:" h.changeLines ∧
      (Mentions "  (enabled)" h.changeLines ↔ h.enabled = false) ∧
      ¬ Mentions "  (disabled)" h.changeLines ∧
      (Mentions "  scale:" h.changeLines ↔ h.desired.scale ≠ h.scale) ∧
      (Mentions "  transform:" h.changeLines ↔ h.desired.transform ≠ h.transform) ∧
      (Mentions "  position:" h.changeLines ↔
        ¬ (h.desired.x = h.x ∧ h.desired.y = h.y)) := by
  unfold changeLines
  simp only [hmode, hon, Bool.false_eq_true, if_false, if_true, Bool.not_true, mentions_append,
    mentions_ite, String.toList_append, List.append_assoc]
  simp

end Head

/-! ## What is marked -/

namespace Request

/-- What is pending of a head once a request has been opened. -/
def pendingIn (r : Request) (h : Head) : Pending :=
  match r.heads.find? fun entry => decide (entry.head = h.id) with
  | some entry => h.pending.union (pendingFor h entry)
  | none => h.pending

/-- Opening a request marks every head by itself. -/
theorem heads_start {o : Outputs} {r : Request} (hids : o.ids.Nodup)
    (hentries : (r.heads.map HeadRequest.head).Nodup) :
    (Transaction.start o r).1.heads = o.heads.map fun h => { h with pending := r.pendingIn h } := by
  have hid (entry : HeadRequest) (h : Head) :
      ({ h with pending := h.pending.union (pendingFor h entry) } : Head).id = h.id := rfl
  have hfold : r.heads.foldl (fun heads entry => updateFirst (fun h => decide (h.id = entry.head))
      (fun h => { h with pending := h.pending.union (pendingFor h entry) }) heads) o.heads =
        (r.heads.foldl mark o).heads :=
    List.foldl_hom Outputs.heads fun _ _ => rfl
  have hmarked := foldl_updateFirst_eq_map hid hentries hids
  rw [Transaction.start, ← hfold, hmarked]
  refine List.map_congr_left fun h _ => ?_
  rw [pendingIn]
  cases r.heads.find? (fun entry => decide (entry.head = h.id)) with
  | none => rfl
  | some entry => rfl

theorem pendingIn_of_mem {r : Request} {h : Head} {entry : HeadRequest}
    (hentries : (r.heads.map HeadRequest.head).Nodup) (hentry : entry ∈ r.heads)
    (hhead : entry.head = h.id) (hidle : h.pending = .none) :
    r.pendingIn h = pendingFor h entry := by
  have hfind := find?_eq_some_of_mem hentries hentry
  rw [hhead] at hfind
  rw [pendingIn, hfind, hidle]
  simp [Pending.union, Pending.none]

theorem pendingIn_of_notMem {r : Request} {h : Head} (hh : h.id ∉ r.heads.map HeadRequest.head) :
    r.pendingIn h = h.pending := by
  have hnone : r.heads.find? (fun entry => decide (entry.head = h.id)) = none :=
    List.find?_eq_none.mpr fun entry hentry heq =>
      hh (List.mem_map.mpr ⟨entry, hentry, of_decide_eq_true heq⟩)
  rw [pendingIn, hnone]

/-! ## The same story -/

/-- Apart from a mode, what is marked in a head is what is said about it. -/
structure Matches (marked : Pending) (lines : List String) : Prop where
  mode : marked.mode = false ∧ ¬ Mentions "  mode:" lines
  enabled : Mentions "  (enabled)" lines ∨ Mentions "  (disabled)" lines ↔ marked.enabled = true
  scale : Mentions "  scale:" lines ↔ marked.scale = true
  position : Mentions "  transform:" lines ∨ Mentions "  position:" lines ↔ marked.position = true

/-- What is marked in a head and what is said about it are what an entry asks for. -/
def Tells (h : Head) (marked : Pending) (lines : List String) : HeadRequest → Prop
  | .mode _ _ =>
      (∃ line, lines = [line] ∧ "  mode:".toList <+: line.toList) ∧
        marked = ⟨true, false, !h.enabled, false⟩
  | .enable _ _ _ _ _ => Matches marked lines ∧ ¬ Mentions "  (disabled)" lines
  | .disable _ => Matches marked lines ∧ ¬ Mentions "  (enabled)" lines

variable {c : Config} {heads : List Head} {h : Head} {m : ModeId} {serial : Nat} {r : Request}

theorem tells_mode (hneeds : needsMode h = true) :
    Tells h (pendingFor h (.mode h.id m)) h.changeLines (.mode h.id m) := by
  rw [needsMode, Bool.and_eq_true] at hneeds
  exact ⟨Head.changeLines_of_modeChanging hneeds.2, rfl⟩

/-- What a head that shall be on is asked for, in a mode that it is in. -/
theorem tells_enable (hmode : h.isModeChanging = false) (hon : h.desired.enabled = true) :
    Tells h (pendingFor h (entryFor h)) h.changeLines (entryFor h) := by
  obtain ⟨hnoMode, henabled, hdisabled, hscale, htransform, hposition⟩ :=
    Head.mentions_changeLines hmode hon
  have hentry : entryFor h = .enable h.id h.desired.scale h.desired.x h.desired.y
      h.desired.transform := if_pos hon
  rw [hentry]
  refine ⟨⟨⟨rfl, hnoMode⟩, ?_, ?_, ?_⟩, hdisabled⟩
  · rw [henabled, or_iff_left hdisabled, pendingFor, Bool.not_eq_true']
  · rw [hscale, pendingFor, bne_iff_ne]
  · rw [htransform, hposition, pendingFor]
    simp only [Bool.or_eq_true, bne_iff_ne, not_and_or]
    exact or_comm

/-- What a head that shall be off is asked for, when it keeps everything else. -/
theorem tells_disable (hkept : h.desired = Layout.kept h) (hchanging : h.isChanging = true) :
    Tells h (pendingFor h (entryFor h)) h.changeLines (entryFor h) := by
  have hoff : h.desired.enabled = false := by rw [hkept, Layout.kept]
  have hmode : h.isModeChanging = false := by simp [Head.isModeChanging, hkept, Layout.kept]
  have hon : h.enabled = true := by
    simpa [Head.isChanging, hmode, hkept, Layout.kept] using hchanging
  have hentry : entryFor h = .disable h.id := by simp [entryFor, hoff]
  rw [hentry, Head.changeLines_of_off hmode hoff hon]
  refine ⟨⟨⟨rfl, ?_⟩, ?_, ?_, ?_⟩, ?_⟩ <;> simp [Mentions, pendingFor]

theorem tells_entryFor (ha : Aimed c heads) (hh : h ∈ heads) (hneeds : needsMode h = false)
    (hchanging : h.isChanging = true) :
    Tells h (pendingFor h (entryFor h)) h.changeLines (entryFor h) := by
  cases hon : h.desired.enabled with
  | true =>
      have hmode : h.isModeChanging = false := by simpa [needsMode, hon] using hneeds
      exact tells_enable hmode hon
  | false => exact tells_disable (ha.kept hh hon) hchanging

/-- Something is marked in a head that changes and is not asked for a new mode. -/
theorem any_pendingFor_entryFor (hneeds : needsMode h = false) (hchanging : h.isChanging = true) :
    (pendingFor h (entryFor h)).any = true := by
  cases hon : h.desired.enabled with
  | true =>
      have hmode : h.isModeChanging = false := by simpa [needsMode, hon] using hneeds
      simp only [Head.isChanging, hmode, hon, Bool.false_or, Bool.true_bne] at hchanging
      simp only [entryFor, hon, if_true, pendingFor, Pending.any, Bool.false_or]
      grind
  | false => simp [entryFor, hon, pendingFor, Pending.any]

/-- Where something is marked, something is said. -/
theorem Tells.changeLines_ne_nil {marked : Pending} {lines : List String} {entry : HeadRequest}
    (htells : Tells h marked lines entry) (hany : marked.any = true) : lines ≠ [] := by
  have hmatches (hm : Matches marked lines) : lines ≠ [] := by
    rw [Pending.any, hm.mode.1, Bool.false_or, Bool.or_eq_true, Bool.or_eq_true, ← hm.scale,
      ← hm.enabled, ← hm.position] at hany
    rcases hany with (hline | hline | hline) | hline | hline <;> exact hline.ne_nil
  cases entry with
  | mode =>
      obtain ⟨⟨line, rfl, _⟩, _⟩ := htells
      exact List.cons_ne_nil _ _
  | enable => exact hmatches htells.1
  | disable => exact hmatches htells.1

/-- An entry of a plan tells the same as what is said and marked, in a head that is there. -/
theorem tells_of_plan (ha : Aimed c heads) (hplan : plan heads serial = some r)
    {entry : HeadRequest} (hentry : entry ∈ r.heads) :
    ∃ h ∈ heads, entry.head = h.id ∧ Tells h (pendingFor h entry) h.changeLines entry ∧
      (pendingFor h entry).any = true := by
  rcases plan_cases hplan with ⟨a, hmem, m, hneeds, _, rfl⟩ | ⟨hneeds, _, rfl⟩
  · obtain rfl := List.mem_singleton.mp hentry
    exact ⟨a, hmem, rfl, tells_mode hneeds, rfl⟩
  · obtain ⟨a, hfilter, rfl⟩ := List.mem_map.mp hentry
    obtain ⟨hmem, hchanging⟩ := List.mem_filter.mp hfilter
    exact ⟨a, hmem, head_entryFor a, tells_entryFor ha hmem (hneeds a hmem) hchanging,
      any_pendingFor_entryFor (hneeds a hmem) hchanging⟩

end Request

namespace Transaction

open Request (plan Tells)

/-- When a request is planned for heads about which the layout has just decided, and is opened,
every head that it names is there and gets something marked and something said, which tell the same
as the entry; no other head gets anything marked. -/
theorem start_tells (c : Config) (o : Outputs) (hids : o.ids.Nodup)
    (hidle : ∀ h ∈ o.heads, h.pending = Pending.none) (serial : Nat) (r : Request)
    (hplan : plan (Layout.desire c o.heads) serial = some r) :
    let before := { o with heads := Layout.desire c o.heads }
    ∃ marked : Head → Pending,
      (start before r).1.heads = before.heads.map (fun h => { h with pending := marked h }) ∧
        (∀ h ∈ before.heads, h.id ∉ r.heads.map HeadRequest.head → marked h = h.pending) ∧
        ∀ entry ∈ r.heads, ∃ h ∈ before.heads, h.id = entry.head ∧ (marked h).any = true ∧
          h.changeLines ≠ [] ∧ Tells h (marked h) h.changeLines entry := by
  intro before
  have ha : Aimed c before.heads := Layout.aimed_desire hids hidle c
  have hentries : (r.heads.map HeadRequest.head).Nodup := Request.nodup_of_plan ha.distinct hplan
  refine ⟨r.pendingIn, Request.heads_start ha.distinct hentries,
    fun h _ hh => Request.pendingIn_of_notMem hh, ?_⟩
  intro entry hentry
  obtain ⟨h, hh, hid, htells, hany⟩ := Request.tells_of_plan ha hplan hentry
  have hmarked := Request.pendingIn_of_mem hentries hentry hid (ha.idle h hh)
  rw [← hmarked] at htells hany
  exact ⟨h, hh, hid.symm, hany, htells.changeLines_ne_nil hany, htells⟩

/-- A display that is off and was reported with another scale, and a panel that is on under the
closed lid. -/
def panelClosed : Outputs :=
  { Outputs.empty with
    heads :=
      [{ Head.blank ⟨1⟩ with
          name := some "DP-1"
          scale := ⟨512⟩
          currentMode := some ⟨10⟩
          modes := [⟨⟨10⟩, 1920, 1080, 60000, true⟩] },
        { Head.blank ⟨2⟩ with
          name := some "eDP-1"
          lidClosed := true
          enabled := true
          currentMode := some ⟨20⟩
          modes := [⟨⟨20⟩, 1280, 800, 60000, true⟩] }] }

theorem start_tells_panelClosed :
    let before := { panelClosed with heads := Layout.desire .default panelClosed.heads }
    let r : Request := ⟨7, [.enable ⟨1⟩ .one 0 0 .normal, .disable ⟨2⟩]⟩
    plan (Layout.desire .default panelClosed.heads) 7 = some r ∧
      ∃ marked : Head → Pending,
        (start before r).1.heads = before.heads.map (fun h => { h with pending := marked h }) ∧
          (∀ h ∈ before.heads, h.id ∉ r.heads.map HeadRequest.head → marked h = h.pending) ∧
          ∀ entry ∈ r.heads, ∃ h ∈ before.heads, h.id = entry.head ∧ (marked h).any = true ∧
            h.changeLines ≠ [] ∧ Tells h (marked h) h.changeLines entry := by
  intro before r
  have hids : panelClosed.ids.Nodup := by decide
  have hidle : ∀ h ∈ panelClosed.heads, h.pending = Pending.none := by decide
  have hplan : plan (Layout.desire .default panelClosed.heads) 7 = some r := by decide +kernel
  exact ⟨hplan, start_tells .default panelClosed hids hidle 7 r hplan⟩

end Transaction

end OutputArranger
