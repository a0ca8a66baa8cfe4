import MeterUplink.Modem.Exchange

namespace MeterUplink.Modem

/-! Laws of sessions. What crosses the port does not depend on the journal, so a session can be
compared with one that keeps none. -/

/-- The bytes that the far end accepted, in order. -/
def accepted (events : List PortEvent) : List UInt8 :=
  (events.filter fun event => event.direction = .written).flatMap (·.bytes)

@[simp] theorem accepted_append (earlier later : List PortEvent) :
    accepted (earlier ++ later) = accepted earlier ++ accepted later := by
  simp only [accepted, List.filter_append, List.flatMap_append]

namespace Session

variable {ε ε' α β γ : Type}

/-- The session without its journal. -/
def quiet (session : Session ε α) : Session ε α := fun port =>
  { session port with records := [] }

theorem bind_pure_eq (session : Session ε α) : session >>= pure = session := by
  funext port
  cases done : (session port).outcome with
  | error e => rw [bind_apply_of_error done, ← done]
  | ok a =>
      rw [bind_apply_of_ok done]
      simp only [pure_apply, List.append_nil, ← done]

theorem bind_bind_eq (first : Session ε α) (second : α → Session ε β) (third : β → Session ε γ) :
    first >>= second >>= third = first >>= fun a => second a >>= third := by
  funext port
  cases done : (first port).outcome with
  | error e =>
      have failed : ((first >>= second) port).outcome = .error e := by
        rw [bind_apply_of_error done]
      rw [bind_apply_of_error failed, bind_apply_of_error done, bind_apply_of_error done]
  | ok a =>
      have start : (first >>= second) port = _ := bind_apply_of_ok done
      cases next : (second a (first port).port).outcome with
      | error e =>
          have failed : ((first >>= second) port).outcome = .error e := by
            rw [start]
            exact next
          rw [bind_apply_of_error failed, start, bind_apply_of_ok done,
            bind_apply_of_error next]
      | ok b =>
          have succeeded : ((first >>= second) port).outcome = .ok b := by
            rw [start]
            exact next
          rw [bind_apply_of_ok succeeded, start, bind_apply_of_ok done, bind_apply_of_ok next]
          simp only [List.append_assoc]

instance : LawfulMonad (Session ε) :=
  LawfulMonad.mk' _ bind_pure_eq (fun _ _ => rfl) bind_bind_eq

theorem exists_of_bind_ok {first : Session ε α} {next : α → Session ε β} {port : Port} {b : β}
    (succeeded : ((first >>= next) port).outcome = .ok b) :
    ∃ a, (first port).outcome = .ok a ∧ (next a (first port).port).outcome = .ok b ∧
      ((first >>= next) port).records =
        (first port).records ++ (next a (first port).port).records := by
  cases outcome : (first port).outcome with
  | error e =>
      rw [bind_apply_of_error outcome] at succeeded
      cases succeeded
  | ok a =>
      rw [bind_apply_of_ok outcome] at succeeded ⊢
      exact ⟨a, rfl, succeeded, rfl⟩

theorem records_bind_eq_nil {first : Session ε α} {next : α → Session ε β} {port : Port}
    (here : (first port).records = []) (there : ∀ a, (next a (first port).port).records = []) :
    ((first >>= next) port).records = [] := by
  cases outcome : (first port).outcome with
  | error e => rw [bind_apply_of_error outcome, here]
  | ok a =>
      rw [bind_apply_of_ok outcome]
      simp only [here, there, List.append_nil]

theorem bind_pure_apply (session : Session ε α) (b : β) (port : Port) :
    (session >>= fun _ => pure b) port =
      { session port with outcome := (session port).outcome.map fun _ => b } := by
  cases done : (session port).outcome with
  | error e =>
      rw [bind_apply_of_error done]
      rfl
  | ok a =>
      rw [bind_apply_of_ok done]
      simp only [pure_apply, List.append_nil]
      rfl

/-- The session with those records that are kept. -/
def keeping (keep : Record → Bool) (session : Session ε α) : Session ε α := fun port =>
  { session port with records := (session port).records.filter keep }

theorem quiet_eq_keeping (session : Session ε α) :
    quiet session = keeping (fun _ => false) session := by
  funext port
  simp only [quiet, keeping, List.filter_eq_nil_iff.mpr, Bool.false_eq_true, not_false_eq_true,
    implies_true]

theorem keeping_bind (keep : Record → Bool) (first : Session ε α) (next : α → Session ε β) :
    keeping keep (first >>= next) = keeping keep first >>= fun a => keeping keep (next a) := by
  funext port
  cases done : (first port).outcome with
  | error e =>
      have kept : (keeping keep first port).outcome = .error e := done
      rw [keeping, bind_apply_of_error done, bind_apply_of_error kept]
      rfl
  | ok a =>
      have kept : (keeping keep first port).outcome = .ok a := done
      rw [keeping, bind_apply_of_ok done, bind_apply_of_ok kept]
      simp only [keeping, List.filter_append]

@[simp] theorem keeping_pure (keep : Record → Bool) (a : α) :
    keeping keep (pure a : Session ε α) = pure a := rfl

theorem keeping_emit {keep : Record → Bool} {level : Level} {text : String}
    (dropped : keep ⟨level, .session, text⟩ = false) :
    keeping keep (emit level text : Session ε Unit) = pure () := by
  funext port
  simp only [keeping, emit, List.filter_cons, dropped, Bool.false_eq_true, if_false,
    List.filter_nil, pure_apply]

theorem quiet_bind (first : Session ε α) (next : α → Session ε β) :
    quiet (first >>= next) = quiet first >>= fun a => quiet (next a) := by
  simp only [quiet_eq_keeping, keeping_bind]

@[simp] theorem quiet_pure (a : α) : quiet (pure a : Session ε α) = pure a := rfl

@[simp] theorem quiet_emit (level : Level) (text : String) :
    quiet (emit level text : Session ε Unit) = pure () := rfl

@[simp] theorem quiet_mapError (rename : ε → ε') (session : Session ε α) :
    quiet (mapError rename session) = mapError rename (quiet session) := rfl

@[simp] theorem outcome_quiet (session : Session ε α) (port : Port) :
    (quiet session port).outcome = (session port).outcome := rfl

@[simp] theorem port_quiet (session : Session ε α) (port : Port) :
    (quiet session port).port = (session port).port := rfl

@[simp] theorem events_quiet (session : Session ε α) (port : Port) :
    (quiet session port).events = (session port).events := rfl

end Session

end MeterUplink.Modem
