/-
An installation whose configuration answers differently from one question to the next.

Others may write to the configuration while a run goes on, and a reading of it may fail.  All that a
run sees of this is the sequence of answers to its questions, so they are settled beforehand: the
n-th question for a text is answered by `read n`.

* `Service.consulting` — an installation whose configuration is read from such a sequence;
* `Service.run_consulting` — where nobody changes the configuration, its runs are the usual ones;
* `Program.Takes` — how many answers a program takes;
* `Registration.confirmationRequired_leads` — what the next answers make of the policy on
  confirmation.
-/
import Enrollment.Proofs.Kept

namespace Enrollment

open Directory

variable {α β : Type} {sv : Service} {read : Nat → String → Except Failure (Option String)}
  {n m k : Nat} {w w' : World}

/-! ### Answers settled beforehand -/

/-- Sends a registration email, where the configuration gives `stored` for the base URL. -/
def Service.send (sv : Service) (stored : Option String) (w : World) (notice : Notice) :
    Except Failure Bool × World :=
  match Notice.compose sv.site.settings sv.site.catalog
      (Policy.baseUrlOf sv.site.settings stored) notice with
  | .error e => (.error e, w)
  | .ok m =>
    let (r, outbox) := w.outbox.post m
    (r, { w with outbox })

/-- An installation whose configuration is read from a sequence of answers; the number says how many
of them have been given. -/
def Service.consulting (sv : Service) (read : Nat → String → Except Failure (Option String)) :
    Handler (Nat × World)
  | .configValue key, (n, w) => (read n key, (n + 1, w))
  | .notify notice, (n, w) =>
    match read n Policy.Key.baseUrl.name with
    | .error e => (.error e, (n + 1, w))
    | .ok stored =>
      let (r, w) := sv.send stored w notice
      (r, (n + 1, w))
  | c, (n, w) =>
    let (r, w) := sv.answer c w
    (r, (n, w))

/-- Where the answers are what the tables hold, every call is answered as it always is. -/
theorem Service.consulting_eq_answer (sv : Service) (c : Call) (hopen : w.isOpen = true)
    (hread : ∀ key, read n key = .ok (w.tables.configuration.value? key)) :
    (sv.consulting read c (n, w)).1 = (sv.answer c w).1 ∧
      (sv.consulting read c (n, w)).2.2 = (sv.answer c w).2 := by
  cases c with
  | configValue key =>
    have hask : (w.ask fun t => .ok (t.configuration.value? key)) = (read n key, w) := by
      rw [World.ask, if_pos hopen, hread]
    exact ⟨(congrArg Prod.fst hask).symm, (congrArg Prod.snd hask).symm⟩
  | notify notice =>
    have hsend : sv.notify w notice =
        sv.send (w.tables.configuration.value? Policy.Key.baseUrl.name) w notice := by
      rw [notify, World.ask, if_pos hopen]
      rfl
    simp only [consulting, answer, hread, hsend, and_self]
  | _ => exact ⟨rfl, rfl⟩

/-- Nobody changes the configuration: it is `c` as the session sees it, and as it is lasting. -/
structure Directory.Session.Configured (c : Policy.Configuration) (s : Session) : Prop where
  working : s.working.configuration = c
  lasting : s.lasting.configuration = c

/-- No call changes the configuration. -/
theorem Service.answer_configured {c : Policy.Configuration} (sv : Service) (call : Call)
    (h : w.session.Configured c) : (sv.answer call w).2.session.Configured c := by
  have hkept := sv.answer_kept (f := Tables.configuration) (fun _ _ _ hsame => hsame) call w
    ⟨h.working, h.lasting⟩
  exact ⟨hkept.working, hkept.lasting⟩

/-- **Where nobody changes the configuration, a run with answers settled beforehand is a run.** -/
theorem Service.run_consulting {c : Policy.Configuration} (sv : Service)
    (hread : ∀ n key, read n key = .ok (c.value? key)) (p : Program α) (n : Nat) (w : World)
    (hopen : w.isOpen = true) (hw : w.session.Configured c) :
    (p.run (sv.consulting read) (n, w)).1 = (sv.run p w).1 ∧
      (p.run (sv.consulting read) (n, w)).2.2 = (sv.run p w).2 := by
  change _ = (p.run sv.answer w).1 ∧ _ = (p.run sv.answer w).2
  induction p generalizing n w with
  | done a => exact ⟨rfl, rfl⟩
  | fail e => exact ⟨rfl, rfl⟩
  | call call next ih =>
    have hstored : ∀ key, read n key = .ok (w.tables.configuration.value? key) := fun key => by
      rw [hread, World.tables, hw.working]
    obtain ⟨hanswer, hworld⟩ := sv.consulting_eq_answer call hopen hstored
    rw [Program.run_call, Program.run_call, hanswer]
    have hrest := ih (sv.answer call w).1 (sv.consulting read call (n, w)).2.1
      (sv.answer call w).2 ((sv.answer_isOpen call w).trans hopen) (sv.answer_configured call hw)
    rwa [← hworld] at hrest ⊢

/-- What the policy on confirmation comes to where the base URL is the n-th text that is read, and how
many texts have been read then. -/
def confirmationFrom (s : Settings) (read : Nat → String → Except Failure (Option String)) (n : Nat) :
    Except Failure (Bool × Nat) := do
  let url ← read n Policy.Key.baseUrl.name
  if Policy.baseUrlOf s url = "" then return (false, n + 1)
  else
    let stored ← read (n + 1) Policy.Key.emailVerification.name
    return ((Policy.flag s.verifyEmail stored).value, n + 2)

namespace Program

/-! ### Questions and the answers that they take -/

/-- A program that takes `k` of the answers where it succeeds, and leaves the storage alone. -/
def Takes (sv : Service) (read : Nat → String → Except Failure (Option String)) (p : Program α)
    (k : Nat) : Prop :=
  ∀ n w, p.Leads (sv.consulting read) (n, w) fun r s =>
    World.SameStorage w s.2 ∧ ∀ a, r = .ok a → s.1 = n + k

variable {p : Program α}

/-- A question comes first: what follows begins with the same storage, so many answers later. -/
theorem Takes.leads_bind (hp : p.Takes sv read k) {f : α → Program β}
    {Q : Except Failure β → Nat × World → Prop}
    (hok : ∀ a w', World.SameStorage w w' → (f a).Leads (sv.consulting read) (n + k, w') Q)
    (herror : ∀ e s, World.SameStorage w s.2 → Q (.error e) s) :
    (p >>= f).Leads (sv.consulting read) (n, w) Q := by
  refine (hp n w).bind ?_ ?_
  · rintro a ⟨m, w'⟩ ⟨hw', hm⟩
    cases hm a rfl
    exact hok a w' hw'
  · rintro e s ⟨hw', -⟩
    exact herror e s hw'

theorem Takes.bind (hp : p.Takes sv read k) {f : α → Program β}
    (hf : ∀ a, (f a).Takes sv read m) : (p >>= f).Takes sv read (k + m) := by
  intro n w
  refine hp.leads_bind (fun a w' hw' => ?_) (fun e s hs => ⟨hs, fun _ h => nomatch h⟩)
  refine (hf a (n + k) w').mono fun r s ⟨hs, htaken⟩ => ⟨hw'.trans hs, fun b hb => ?_⟩
  rw [htaken b hb, Nat.add_assoc]

theorem takes_pure (a : α) : (pure a : Program α).Takes sv read 0 :=
  fun _ w => ⟨.refl w, fun _ _ => rfl⟩

/-- A text is asked for: what follows begins with the next answer. -/
theorem leads_configValue_bind {key : String} {f : Option String → Program β}
    {Q : Except Failure β → Nat × World → Prop}
    (hok : ∀ stored, read n key = .ok stored → (f stored).Leads (sv.consulting read) (n + 1, w) Q)
    (herror : ∀ e, read n key = .error e → Q (.error e) (n + 1, w)) :
    (configValue key >>= f).Leads (sv.consulting read) (n, w) Q := by
  have hread : (configValue key).Leads (sv.consulting read) (n, w)
      fun r s => s = (n + 1, w) ∧ read n key = r := leads_perform.mpr ⟨rfl, rfl⟩
  refine hread.bind ?_ ?_
  · rintro stored s ⟨rfl, hstored⟩
    exact hok stored hstored
  · rintro e s ⟨rfl, he⟩
    exact herror e he

theorem takes_configValue (key : String) : (configValue key).Takes sv read 1 :=
  fun _ w => leads_perform.mpr ⟨.refl w, fun _ _ => rfl⟩

/-- The collaborators other than the configuration and the notifier take no answer. -/
theorem takes_perform {c : Call} (hc : c.Silent) (hconfig : ∀ key, c ≠ .configValue key)
    (hnotify : ∀ notice, c ≠ .notify notice) : (perform c).Takes sv read 0 := by
  intro n w
  have hanswer : sv.consulting read c (n, w) = ((sv.answer c w).1, (n, (sv.answer c w).2)) := by
    cases c with
    | configValue key => exact absurd rfl (hconfig key)
    | notify notice => exact absurd rfl (hnotify notice)
    | _ => rfl
  refine leads_perform.mpr ?_
  rw [hanswer]
  exact ⟨sv.answer_sameStorage hc w, fun _ _ => rfl⟩

theorem takes_loginFree (login : String) (scope : Scope) (exclude : Option String) :
    (loginFree login scope exclude).Takes sv read 0 :=
  takes_perform trivial (fun _ h => nomatch h) (fun _ h => nomatch h)

theorem takes_emailFree (email : Option String) (scope : Scope) (exclude : Option String) :
    (emailFree email scope exclude).Takes sv read 0 :=
  takes_perform trivial (fun _ h => nomatch h) (fun _ h => nomatch h)

theorem leads_settle_consulting (bound : Log.Context) (key : String) (v : Policy.Verdict α)
    (n : Nat) (w : World) : (v.settle bound key).Leads (sv.consulting read) (n, w) fun r s =>
      World.SameStorage w s.2 ∧ r = .ok v.value ∧ s.1 = n := by
  rw [Policy.Verdict.settle]
  cases v.warning with
  | none => exact ⟨.refl w, rfl, rfl⟩
  | some _ => exact ⟨⟨rfl, rfl, rfl⟩, rfl, rfl⟩

theorem takes_settle (bound : Log.Context) (key : String) (v : Policy.Verdict α) :
    (v.settle bound key).Takes sv read 0 := fun n w =>
  (leads_settle_consulting bound key v n w).mono fun _ _ ⟨hw, _, hn⟩ => ⟨hw, fun _ _ => hn⟩

theorem takes_readFlag (bound : Log.Context) (key : String) (fallback : Bool) :
    (Policy.readFlag bound key fallback).Takes sv read 1 :=
  (takes_configValue key).bind fun _ => takes_settle bound key _

theorem takes_readWhole (bound : Log.Context) (key : String) (fallback : Int)
    (minimum : Option Int) : (Policy.readWhole bound key fallback minimum).Takes sv read 1 :=
  (takes_configValue key).bind fun _ => takes_settle bound key _

theorem takes_readText (key : String) (fallback : Option String) :
    (Policy.readText key fallback).Takes sv read 1 :=
  (takes_configValue key).bind fun _ => takes_pure _

theorem takes_resolver (site : Installation) (bound : Log.Context) :
    (site.resolver bound).Takes sv read 2 :=
  (takes_readWhole bound _ _ none).bind fun _ =>
    ((takes_readText _ _).bind fun _ => takes_pure _).bind fun _ => takes_pure _

theorem takes_defaultGroup (site : Installation) : site.defaultGroup.Takes sv read 1 := by
  have hid : (Policy.defaultGroup site.settings).Takes sv read 1 :=
    (takes_readText _ _).bind fun _ => takes_pure _
  refine Takes.bind (m := 0) hid fun id => ?_
  cases id with
  | none => exact takes_pure _
  | some id =>
    have hgroup : (Program.group id).Takes sv read 0 :=
      takes_perform trivial (fun _ h => nomatch h) (fun _ h => nomatch h)
    refine Takes.bind (m := 0) hgroup fun found => ?_
    cases found with
    | none => exact fun _ w => ⟨.refl w, fun _ h => nomatch h⟩
    | some g => exact takes_pure _

/-- A block is opened without an answer. -/
theorem leads_within_consulting (outer : Log.Context) (workflow : String) (fields : Log.Context)
    {body : Log.Context → Program α} {Q : Except Failure α → Nat × World → Prop}
    (hbody : ∀ bound w', World.SameStorage w w' →
      (body bound).Leads (sv.consulting read) (n, w') Q) :
    (within outer workflow fields body).Leads (sv.consulting read) (n, w) Q := by
  rw [within]
  split
  · exact hbody _ w (.refl w)
  · exact hbody _ { w with runs := w.runs + 1 } ⟨rfl, rfl, rfl⟩

/-- The log takes every line: what follows begins with the same storage. -/
theorem leads_log_consulting_bind (bound : Log.Context) (e : Log.Event) {f : Unit → Program β}
    {Q : Except Failure β → Nat × World → Prop}
    (hf : ∀ w', World.SameStorage w w' → (f ()).Leads (sv.consulting read) (n, w') Q) :
    (Program.log bound e >>= f).Leads (sv.consulting read) (n, w) Q :=
  hf { w with log := w.log ++ [e.within bound] } ⟨rfl, rfl, rfl⟩

/-- Storing an account takes no answer, and what follows goes on with the result. -/
theorem leads_persist_consulting_bind {u : User} {password actor : Option String}
    {f : Except Failure (Option User) → Program β} {Q : Except Failure β → Nat × World → Prop}
    (hf : (f ((sv.persist w u password actor).1.map some)).Leads (sv.consulting read)
      (n, (sv.persist w u password actor).2) Q) :
    ((persist u password actor).outcome >>= f).Leads (sv.consulting read) (n, w) Q := by
  rw [Leads, run_bind, run_outcome, Program.persist, run_perform]
  exact hf

/-- Where nothing waits to be flushed a commit succeeds, and takes no answer. -/
theorem leads_commit_consulting_bind {f : Unit → Program β}
    {Q : Except Failure β → Nat × World → Prop} (hopen : w.isOpen = true)
    (hflushed : w.session.staged = [])
    (hf : (f ()).Leads (sv.consulting read) (n, w.commit.2) Q) :
    (commit >>= f).Leads (sv.consulting read) (n, w) Q := by
  have hcommit : (commit).Leads (sv.consulting read) (n, w)
      fun r s => r = .ok () ∧ s = (n, w.commit.2) := by
    refine leads_perform.mpr ⟨?_, rfl⟩
    change w.commit.1 = _
    rw [World.commit_of_flushed hopen hflushed]
  refine hcommit.bind ?_ ?_
  · rintro ⟨⟩ s ⟨-, rfl⟩
    exact hf
  · rintro e s ⟨he, -⟩
    cases he

end Program

namespace Registration

/-- The policy on confirmation comes to what the next answers make of it. -/
theorem confirmationRequired_leads (sv : Service)
    (read : Nat → String → Except Failure (Option String)) (bound : Log.Context) (n : Nat)
    (w : World) :
    (confirmationRequired sv.site bound).Leads (sv.consulting read) (n, w) fun r s =>
      World.SameStorage w s.2 ∧ r = (confirmationFrom sv.site.settings read n).map (·.1) ∧
        ∀ confirm next, confirmationFrom sv.site.settings read n = .ok (confirm, next) →
          s.1 = next := by
  have hurl : (Policy.baseUrl sv.site.settings).Leads (sv.consulting read) (n, w) fun r s =>
      s = (n + 1, w) ∧
        r = (read n Policy.Key.baseUrl.name).map (Policy.baseUrlOf sv.site.settings) :=
    Program.leads_configValue_bind (fun _ h => ⟨rfl, by rw [h]; rfl⟩) fun _ h =>
      ⟨rfl, by rw [h]; rfl⟩
  rw [confirmationFrom]
  refine hurl.bind ?_ ?_
  · rintro url s ⟨rfl, hr⟩
    cases hread : read n Policy.Key.baseUrl.name with
    | error e =>
      rw [hread] at hr
      cases hr
    | ok stored =>
      rw [hread] at hr
      cases hr
      simp only [bind, Except.bind]
      by_cases hblank : Policy.baseUrlOf sv.site.settings stored = ""
      · rw [if_pos hblank, if_pos hblank]
        exact ⟨.refl w, rfl, fun _ _ h => by cases h; rfl⟩
      · rw [if_neg hblank, if_neg hblank]
        refine Program.leads_configValue_bind (fun stored hstored => ?_) fun e he => ?_
        · rw [hstored]
          refine (Program.leads_settle_consulting bound _ _ (n + 2) w).mono ?_
          rintro r s ⟨hs, rfl, hn⟩
          exact ⟨hs, rfl, fun _ _ h => by cases h; exact hn⟩
        · rw [he]
          exact ⟨.refl w, rfl, fun _ _ h => nomatch h⟩
  · rintro e s ⟨rfl, hr⟩
    cases hread : read n Policy.Key.baseUrl.name with
    | error e' =>
      rw [hread] at hr
      cases hr
      exact ⟨.refl w, rfl, fun _ _ h => nomatch h⟩
    | ok stored =>
      rw [hread] at hr
      cases hr

end Registration
end Enrollment
