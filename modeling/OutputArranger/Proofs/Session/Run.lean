import OutputArranger.Session.Pass

/-!
# Runs of a session

A run is any sequence of events and passes of the layout. Every pass has a compositor of its own,
which takes some requests and refuses others, so that a compositor may change its mind from one
pass to the next. Nothing is assumed about the order or the sense of the events: answers may come
to no request, and heads may be reported that were never announced.
-/

namespace OutputArranger

/-- One thing that happens to a session. A pass comes with what the compositor takes. -/
inductive Move where
  | event (e : Event)
  | pass (accepts : Acceptance)

namespace Session

def after (s : Session) : Move → Session
  | .event e => (s.handle e).session
  | .pass accepts => (s.layout accepts).session

/-- The session after several moves, one after another. -/
def run (s : Session) (moves : List Move) : Session := moves.foldl after s

/-- The sessions to which a run leads from the beginning. -/
def Reachable (s : Session) : Prop :=
  ∃ config file recorded moves, s = (start config file recorded).run moves

@[simp] theorem run_nil (s : Session) : s.run [] = s := rfl

@[simp] theorem run_cons (s : Session) (m : Move) (rest : List Move) :
    s.run (m :: rest) = (s.after m).run rest := rfl

theorem run_append (s : Session) (first second : List Move) :
    s.run (first ++ second) = (s.run first).run second := List.foldl_append

theorem Reachable.run {s : Session} (hs : s.Reachable) (moves : List Move) :
    (s.run moves).Reachable := by
  obtain ⟨config, file, recorded, earlier, rfl⟩ := hs
  exact ⟨config, file, recorded, earlier ++ moves, (run_append _ earlier moves).symm⟩

theorem Reachable.layout {s : Session} (hs : s.Reachable) (accepts : Acceptance) :
    (s.layout accepts).session.Reachable := hs.run [.pass accepts]

/-- What an event and a pass preserve, a run preserves. -/
theorem run_preserves {P : Session → Prop} (event : ∀ s e, P s → P (s.handle e).session)
    (pass : ∀ s accepts, P s → P (s.layout accepts).session) {s : Session} (hs : P s)
    (moves : List Move) : P (s.run moves) := by
  induction moves generalizing s with
  | nil => exact hs
  | cons m rest ih =>
      cases m with
      | event e => exact ih (event s e hs)
      | pass accepts => exact ih (pass s accepts hs)

/-- What holds at the beginning and is preserved holds of every reachable session. -/
theorem Reachable.invariant {P : Session → Prop} (start : ∀ c f r, P (Session.start c f r))
    (event : ∀ s e, P s → P (s.handle e).session)
    (pass : ∀ s accepts, P s → P (s.layout accepts).session) {s : Session} (hs : s.Reachable) :
    P s := by
  obtain ⟨config, file, recorded, moves, rfl⟩ := hs
  exact run_preserves event pass (start config file recorded) moves

/-! ## What happens in a run -/

/-- The requests that the compositor takes in a run, the earliest first. -/
def requests (s : Session) : List Move → List Request
  | [] => []
  | .event e :: rest => (s.handle e).session.requests rest
  | .pass accepts :: rest =>
      (s.layout accepts).sent.toList ++ (s.layout accepts).session.requests rest

/-- Every move of a run is such that, in the session that it meets. -/
def Throughout (ok : Session → Move → Prop) (s : Session) : List Move → Prop
  | [] => True
  | m :: rest => ok s m ∧ Throughout ok (s.after m) rest

/-- Some move of a run is such that, in the session that it meets. -/
def Sometime (ok : Session → Move → Prop) (s : Session) : List Move → Prop
  | [] => False
  | m :: rest => ok s m ∨ Sometime ok (s.after m) rest

/-- An answer after which the changes are given up. -/
def GivingUp (s : Session) : Move → Prop
  | .event (.resolved outcome) => (s.handle (.resolved outcome)).session.abandoned = true
  | _ => False

/-- Answers come to open requests only. -/
def Answering (s : Session) : Move → Prop
  | .event (.resolved _) => s.transaction.isSome = true
  | _ => True

variable {ok : Session → Move → Prop} {s : Session}

theorem requests_cons (s : Session) (m : Move) (rest : List Move) :
    s.requests (m :: rest) = s.requests [m] ++ (s.after m).requests rest := by
  cases m <;> simp [requests, after]

/-- What every move preserves and rules out together never happens. -/
theorem not_sometime_of_preserved {P : Session → Prop} {never : Session → Move → Prop}
    (step : ∀ s m, P s → ok s m → P (s.after m) ∧ ¬ never s m) (hs : P s) {moves : List Move}
    (hm : Throughout ok s moves) : ¬ Sometime never s moves := by
  induction moves generalizing s with
  | nil => exact id
  | cons m rest ih =>
      obtain ⟨hnext, hnot⟩ := step s m hs hm.1
      exact fun h => h.elim hnot (ih hnext hm.2)

theorem throughout_append {first second : List Move} :
    Throughout ok s (first ++ second) ↔
      Throughout ok s first ∧ Throughout ok (s.run first) second := by
  induction first generalizing s with
  | nil => simp [Throughout]
  | cons m rest ih => simp only [List.cons_append, Throughout, ih, run_cons, and_assoc]

theorem sometime_append {first second : List Move} :
    Sometime ok s (first ++ second) ↔
      Sometime ok s first ∨ Sometime ok (s.run first) second := by
  induction first generalizing s with
  | nil => simp [Sometime]
  | cons m rest ih => simp only [List.cons_append, Sometime, ih, run_cons, or_assoc]

end Session

end OutputArranger
