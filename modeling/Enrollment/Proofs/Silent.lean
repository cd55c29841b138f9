/-
Calls that leave the storage alone.

Of all calls only three can change what is stored or what waits to be stored: storing an account,
`commit` and `rollback`.  Every other one is silent: its answer leaves the session as it was
(`answer_sameStorage`), whatever else it reads, draws, sends or logs.

* `World.SameStorage` — nothing but messages, log lines and the names of tokens and runs differ;
* `leads_log_bind`, `leads_within`, `leads_sendNotice`, … — silent programs that cannot fail: a
  workflow always goes on after them.
-/
import Enrollment.Proofs.Run
import Enrollment.Service

namespace Enrollment

/-! ### Worlds with the same storage -/

/-- Two worlds agree on the session, on whether the storage can be reached, and on the id that the
next new account gets. -/
structure World.SameStorage (w w' : World) : Prop where
  session : w'.session = w.session
  isOpen : w'.isOpen = w.isOpen
  ids : w'.ids = w.ids

namespace World.SameStorage

variable {w w' w'' : World}

theorem refl (w : World) : SameStorage w w := ⟨rfl, rfl, rfl⟩

theorem trans (h : SameStorage w w') (h' : SameStorage w' w'') : SameStorage w w'' :=
  ⟨h'.session.trans h.session, h'.isOpen.trans h.isOpen, h'.ids.trans h.ids⟩

theorem tables (h : SameStorage w w') : w'.tables = w.tables := by
  rw [World.tables, World.tables, h.session]

/-- The next account is stored by the same clerk. -/
theorem clerk (h : SameStorage w w') (sv : Service) : sv.clerk w' = sv.clerk w := by
  rw [Service.clerk, Service.clerk, h.ids]

end World.SameStorage

@[simp] theorem World.ask_snd {α : Type} (w : World)
    (q : Directory.Tables → Except Failure α) : (w.ask q).2 = w := by
  rw [World.ask]
  split <;> rfl

theorem World.SameStorage.of_ask {α : Type} (w : World)
    (q : Directory.Tables → Except Failure α) : SameStorage w (w.ask q).2 := by
  rw [World.ask_snd]
  exact refl w

theorem World.ask_of_open {α : Type} {w : World} (hw : w.isOpen = true)
    (q : Directory.Tables → Except Failure α) : (w.ask q).1 = q w.tables := by
  rw [World.ask, if_pos hw]

theorem World.ask_eq_ok {α : Type} {w : World} {q : Directory.Tables → Except Failure α} {a : α} :
    (w.ask q).1 = .ok a ↔ w.isOpen = true ∧ q w.tables = .ok a := by
  rw [World.ask]
  cases w.isOpen with
  | true => simp
  | false => simp

theorem World.ask_eq_error {α : Type} {w : World} {q : Directory.Tables → Except Failure α}
    {e : Failure} :
    (w.ask q).1 = .error e ↔
      (w.isOpen = false ∧ e = .storageClosed) ∨ (w.isOpen = true ∧ q w.tables = .error e) := by
  rw [World.ask]
  cases w.isOpen with
  | true => simp
  | false => simp [eq_comm]

/-! ### Silent calls -/

/-- A call that neither changes nor settles what is stored. -/
def Call.Silent : Call → Prop
  | .persist _ _ _ => False
  | .commit => False
  | .rollback => False
  | _ => True

variable {α β : Type} {sv : Service} {w : World}

theorem Service.notify_sameStorage (sv : Service) (w : World) (n : Notice) :
    World.SameStorage w (sv.notify w n).2 := by
  rw [Service.notify]
  split
  · rename_i e w' h
    have hw : w' = w := by rw [← World.ask_snd w, h]
    exact hw ▸ World.SameStorage.refl w
  · rename_i stored w' h
    have hw : w' = w := by rw [← World.ask_snd w, h]
    subst hw
    split <;> exact ⟨rfl, rfl, rfl⟩

theorem Service.answer_sameStorage {c : Call} (hc : c.Silent) (w : World) :
    World.SameStorage w (sv.answer c w).2 := by
  cases c with
  | configValue key => exact .of_ask w _
  | loginFree login scope exclude => exact .of_ask w _
  | emailFree email scope exclude => exact .of_ask w _
  | accountByLogin login scope => exact .of_ask w _
  | group id => exact .of_ask w _
  | persist user password actor => exact hc.elim
  | randomPassword length => exact .refl w
  | freshToken => exact ⟨rfl, rfl, rfl⟩
  | freshRun => exact ⟨rfl, rfl, rfl⟩
  | clock => exact .refl w
  | notify notice => exact sv.notify_sameStorage w notice
  | commit => exact hc.elim
  | rollback => exact hc.elim
  | log event => exact ⟨rfl, rfl, rfl⟩

/-! ### Silent programs that cannot fail -/

namespace Program

/-- The log takes every line: what follows begins with the same storage. -/
theorem leads_log_bind (bound : Log.Context) (e : Log.Event) {k : Unit → Program β}
    {Q : Except Failure β → World → Prop}
    (hk : ∀ w', World.SameStorage w w' → (k ()).Leads sv.answer w' Q) :
    (Program.log bound e >>= k).Leads sv.answer w Q :=
  hk { w with log := w.log ++ [e.within bound] } ⟨rfl, rfl, rfl⟩

theorem leads_freshToken_bind {k : String → Program β} {Q : Except Failure β → World → Prop}
    (hk : ∀ w', World.SameStorage w w' → (k (sv.around.token w.tokens)).Leads sv.answer w' Q) :
    (Program.freshToken >>= k).Leads sv.answer w Q :=
  hk { w with tokens := w.tokens + 1 } ⟨rfl, rfl, rfl⟩

theorem leads_clock_bind {k : Timestamp → Program β} {Q : Except Failure β → World → Prop}
    (hk : (k sv.around.now).Leads sv.answer w Q) : (Program.clock >>= k).Leads sv.answer w Q := hk

theorem leads_randomPassword_bind {n : Int} {k : String → Program β}
    {Q : Except Failure β → World → Prop}
    (hok : ∀ p, sv.around.randomPassword n = .ok p → (k p).Leads sv.answer w Q)
    (herror : ∀ e, sv.around.randomPassword n = .error e → Q (.error e) w) :
    (Program.randomPassword n >>= k).Leads sv.answer w Q := by
  have hrandom : (Program.randomPassword n).Leads sv.answer w
      fun r w' => w' = w ∧ sv.around.randomPassword n = r := leads_perform.mpr ⟨rfl, rfl⟩
  refine hrandom.bind ?_ ?_
  · rintro p w' ⟨rfl, hp⟩
    exact hok p hp
  · rintro e w' ⟨rfl, he⟩
    exact herror e he

/-- A block inside another one shares its run, and every other block is given one. -/
theorem leads_within (outer : Log.Context) (workflow : String) (fields : Log.Context)
    {body : Log.Context → Program α} {Q : Except Failure α → World → Prop}
    (hbody : ∀ bound w', World.SameStorage w w' → (body bound).Leads sv.answer w' Q) :
    (Program.within outer workflow fields body).Leads sv.answer w Q := by
  rw [Program.within]
  split
  · exact hbody _ w (.refl w)
  · exact hbody _ { w with runs := w.runs + 1 } ⟨rfl, rfl, rfl⟩

/-- A verdict is settled whether or not there is something to warn of. -/
theorem leads_settle (bound : Log.Context) (key : String) (v : Policy.Verdict α) (w : World) :
    (v.settle bound key).Leads sv.answer w
      fun r w' => World.SameStorage w w' ∧ r = .ok v.value := by
  rw [Policy.Verdict.settle]
  cases v.warning with
  | none => exact ⟨.refl w, rfl⟩
  | some _ => exact ⟨⟨rfl, rfl, rfl⟩, rfl⟩

/-- An email that cannot be sent is reported, and nothing fails. -/
theorem leads_sendNotice (bound : Log.Context) (user : User) (token : String) (confirm : Bool)
    (w : World) :
    (Registration.sendNotice bound user token confirm).Leads sv.answer w
      fun r w' => World.SameStorage w w' ∧ ∃ problem, r = .ok problem := by
  have hsent : ∀ n : Notice, (Program.notify n).outcome.Leads sv.answer w
      fun r w' => World.SameStorage w w' ∧ ∃ sent, r = .ok sent := by
    intro n
    have hn : (Program.notify n).Leads sv.answer w fun _ w' => World.SameStorage w w' :=
      leads_perform.mpr (sv.notify_sameStorage w n)
    exact hn.outcome fun r w' hw' => ⟨hw', r, rfl⟩
  refine (hsent _).bind (fun sent w' ⟨hw', _⟩ => ?_) (fun e w' ⟨hw', sent, he⟩ => (nomatch he))
  match sent with
  | .ok true => exact ⟨hw', none, rfl⟩
  | .ok false => exact leads_log_bind _ _ fun w'' hw'' => ⟨hw'.trans hw'', _, rfl⟩
  | .error e => exact leads_log_bind _ _ fun w'' hw'' => ⟨hw'.trans hw'', _, rfl⟩

end Program
end Enrollment
