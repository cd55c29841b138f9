/-
What the stored configuration can make of the policies.

Any text may be stored under any key.  No text makes a policy unreadable or takes a length below its
least value, and a number is honoured exactly where it is spelled out and not too small.

* `Settings.read_valid` — settings that are accepted keep the least values;
* `Policy.whole_of_spells`, `Policy.whole_of_not_spells` — what a stored text comes to;
* `Linking.linkOrCreate_password` — the passwords of linked accounts are drawn, and long enough;
* `stored_policies_bounded` — all of this for everything that may be stored.
-/
import Enrollment.Credential.Password
import Enrollment.Proofs.Answers
import Enrollment.Proofs.History
import Enrollment.Proofs.Numerals
import Enrollment.Proofs.Reports
import Enrollment.Settings.Reader

namespace Enrollment

/-! ### Settings that are accepted -/

namespace Settings

variable {α : Type} {read : Json → Except Fault α} {default : α}

/-- A setting is its default, or has been read. -/
theorem Source.take_spec (src : Source) (field : String) {P : α → Prop} (hdefault : P default)
    (hread : ∀ j a, read j = .ok a → P a) (problems : List Problem) :
    P ((src.take field read default).run problems).1 := by
  rw [Source.take]
  cases src.value? field with
  | none => exact hdefault
  | some j =>
    cases h : read j with
    | ok a =>
      simp only [h]
      exact hread j a h
    | error fault =>
      simp only [h]
      exact hdefault

theorem wholeFrom_eq_ok {least n : Int} {j : Json} (h : wholeFrom least j = .ok n) : least ≤ n := by
  rw [wholeFrom] at h
  cases hwhole : whole j with
  | error fault =>
    rw [hwhole] at h
    cases h
  | ok m =>
    rw [hwhole] at h
    change (if least ≤ m then Except.ok m else .error Fault.belowMinimum) = .ok n at h
    split at h
    · cases h
      assumption
    · cases h

/-- Whatever else is refused, the two lengths keep their least values. -/
theorem readAll_valid (src : Source) (problems : List Problem) :
    (src.readAll.run problems).1.Valid := by
  obtain ⟨before, before', hlogin, hpassword⟩ : ∃ before before',
      (src.readAll.run problems).1.minLoginLength =
        ((src.take "min_login_length" (wholeFrom leastLoginLength) 4).run before).1 ∧
      (src.readAll.run problems).1.passwordLength =
        ((src.take "random_password_length" (wholeFrom leastPasswordLength) 25).run before').1 :=
    ⟨_, _, rfl, rfl⟩
  rw [Settings.Valid, hlogin, hpassword]
  exact ⟨src.take_spec _ (by decide) (fun _ _ => wholeFrom_eq_ok) before,
    src.take_spec _ (by decide) (fun _ _ => wholeFrom_eq_ok) before'⟩

/-- **Settings that are accepted** keep the least values. -/
theorem read_valid {src : Source} {s : Settings} (h : Settings.read src = .ok s) : s.Valid := by
  have hvalid := readAll_valid src []
  rw [Settings.read] at h
  split at h
  · rename_i settings heq
    cases h
    rwa [heq] at hvalid
  · cases h

end Settings

/-! ### What a stored text comes to -/

namespace Policy

open Text

variable {fallback n : Int} {least : Option Int} {text : String}

/-- A number is honoured where it is not too small. -/
theorem whole_of_spells (h : Spells text n) :
    (whole fallback least (some text)).value =
      if least.all (fun m => decide (m ≤ n)) then n else fallback := by
  have hread := readInteger?_eq_some_iff.mpr h
  cases least with
  | none => simp [whole, hread]
  | some m =>
    by_cases hm : n < m
    · simp [whole, hread, hm]
    · simp [whole, hread, hm, Int.not_lt.mp hm]

/-- A text that is no number is ignored. -/
theorem whole_of_not_spells (h : ∀ n, ¬Spells text n) :
    (whole fallback least (some text)).value = fallback := by
  have hnone : readInteger? text = none := by
    cases hread : readInteger? text with
    | none => rfl
    | some n => exact absurd (readInteger?_eq_some_iff.mp hread) (h n)
  simp [whole, hnone]

/-- What is stored takes no number below the least value. -/
theorem le_whole {m : Int} (hfallback : m ≤ fallback) (stored : Option String) :
    m ≤ (whole fallback (some m) stored).value := by
  cases stored with
  | none => exact hfallback
  | some text =>
    by_cases h : ∃ n, Spells text n
    · obtain ⟨n, hn⟩ := h
      rw [whole_of_spells hn]
      split
      · rename_i hleast
        simpa using hleast
      · exact hfallback
    · rw [whole_of_not_spells (not_exists.mp h)]
      exact hfallback

/-- A policy that is a whole number: the key that it is stored under, the setting that stands in for
it, and its least value. -/
structure WholePolicy where
  key : Key
  fallback : Int
  least : Option Int
  read : Log.Context → Program Int

/-- The policies that are whole numbers. -/
def wholePolicies (s : Settings) : List WholePolicy :=
  [⟨.loginLength, s.minLoginLength, some leastLoginLength, loginLength s⟩,
    ⟨.passwordLength, s.passwordLength, some leastPasswordLength, passwordLength s⟩,
    ⟨.defaultLanguage, s.defaultLanguage, none, defaultLanguage s⟩]

/-- They are read alike. -/
theorem read_of_mem {s : Settings} {p : WholePolicy} (hp : p ∈ wholePolicies s)
    (bound : Log.Context) : p.read bound = readWhole bound p.key.name p.fallback p.least := by
  simp only [wholePolicies, List.mem_cons, List.not_mem_nil, or_false] at hp
  rcases hp with rfl | rfl | rfl
  · rfl
  · rfl
  · rfl

end Policy

/-- What an open storage answers is what a policy comes to. -/
theorem Program.Answers.run_of_open {α : Type} {sv : Service} {p : Program α}
    {q : Directory.Tables → Except Failure α} (hp : p.Answers sv q) {w : World}
    (hopen : w.isOpen = true) : (sv.run p w).1 = q w.tables := by
  obtain ⟨-, hr⟩ := hp w
  exact hr.trans (World.ask_of_open hopen q)

/-! ### The passwords of linked accounts -/

/-- An account is handed over with a password that has been drawn. -/
theorem Linking.Report.drawn {s : Settings} {talk : List Exchange} {r : Except Failure Outcome}
    (hreport : Linking.Report s talk r) {u : User} {password actor : Option String}
    {reply : Except Failure (Option User)} (hx : ⟨.persist u password actor, reply⟩ ∈ talk) :
    ∃ n drawn, PasswordLength s n ∧ password = some drawn ∧
      ⟨.randomPassword n, .ok drawn⟩ ∈ talk := by
  have hhanded : ∀ {n drawn u' reply'}, (⟨.persist u password actor, reply⟩ : Exchange) ∈
      handed n drawn u' reply' → password = some drawn := by
    intro n drawn u' reply' hmem
    rcases List.mem_cons.mp hmem with hdraw | hpersist
    · cases hdraw
    · cases List.mem_singleton.mp hpersist
      rfl
  induction hreport with
  | unasked => cases hx
  | unhanded => simp at hx
  | @refused n drawn _ _ _ _ hn _ ih =>
    rcases List.mem_append.mp hx with hx | hx
    · exact ⟨n, drawn, hn, hhanded hx, by simp [handed]⟩
    · obtain ⟨n', drawn', hn', hpassword, hmem⟩ := ih hx
      exact ⟨n', drawn', hn', hpassword, List.mem_append_right _ hmem⟩
  | @uncommitted n drawn _ _ _ _ hn =>
    exact ⟨n, drawn, hn, hhanded (by simpa using hx), by simp [handed]⟩
  | @committed n drawn _ _ _ hn =>
    exact ⟨n, drawn, hn, hhanded (by simpa using hx), by simp [handed]⟩

/-- **The passwords of linked accounts** keep the least length, whatever any collaborator answers,
as long as passwords are drawn as they are asked for. -/
theorem Linking.linkOrCreate_password {σ : Type} {h : Handler σ} {site : Installation}
    (hvalid : site.settings.Valid)
    (hrandom : ∀ n t, ∃ draw, (h (.randomPassword n) t).1 = Credential.random draw n)
    {outer : Log.Context} {a : Assertion} {provider : String} {t : σ} {u : User}
    {password actor : Option String} {reply : Except Failure (Option User)}
    (hx : ⟨.persist u password actor, reply⟩ ∈ (linkOrCreate site outer a provider).transcript h t) :
    ∃ drawn, password = some drawn ∧ leastPasswordLength ≤ drawn.length ∧
      ∀ c ∈ drawn.toList, c ∈ Credential.alphabet := by
  obtain ⟨n, drawn, ⟨stored, rfl⟩, rfl, hmem⟩ :=
    (linkOrCreate_report rfl).drawn ((Program.mem_noted rfl).mpr hx)
  obtain ⟨t', hreply⟩ := Program.reply_of_mem_transcript ((Program.mem_noted rfl).mp hmem)
  obtain ⟨draw, hdraw⟩ := hrandom _ t'
  obtain ⟨-, hlength, halphabet⟩ := Credential.random_eq_ok (hdraw.symm.trans hreply.symm)
  have hleast := Policy.le_whole hvalid.2 stored
  exact ⟨drawn, rfl, by omega, halphabet⟩

/-- **The stored configuration can neither weaken nor break the policies.**  Whatever is stored, and
with any settings that were accepted, all eight policies can be read, and the two lengths keep their
least values.  Of what is stored for a whole number, the decimal text of a number, with any blanks
around it, is honoured exactly where it is not below the least value; where it is, and where the text
is no number or there is none, the setting stands in.  So whatever the directory and the configuration
answer, the passwords of linked accounts have 16 characters at least, all of them from the alphabet. -/
theorem stored_policies_bounded {src : Settings.Source} {site : Installation}
    (hread : Settings.read src = .ok site.settings) (around : Surroundings) (w : World)
    (hopen : w.isOpen = true) (bound : Log.Context) :
    let s := site.settings
    let sv : Service := { site, around }
    let stored (k : Policy.Key) := w.tables.configuration.value? k.name
    ((∃ b, (sv.run (Policy.emailVerification s bound) w).1 = .ok b) ∧
      (∃ b, (sv.run (Policy.selfRegistration s bound) w).1 = .ok b) ∧
      (∃ url, (sv.run (Policy.baseUrl s) w).1 = .ok url) ∧
      (∃ group, (sv.run (Policy.defaultGroup s) w).1 = .ok group) ∧
      (∃ language, (sv.run (Policy.defaultLanguage s bound) w).1 = .ok language) ∧
      (∃ timezone, (sv.run (Policy.defaultTimezone s) w).1 = .ok timezone) ∧
      (∃ n, (sv.run (Policy.loginLength s bound) w).1 = .ok n ∧ 1 ≤ n) ∧
      ∃ n, (sv.run (Policy.passwordLength s bound) w).1 = .ok n ∧ 16 ≤ n) ∧
    (∀ p ∈ Policy.wholePolicies s,
      (∀ (before after : String) (n : Int), (∀ c ∈ before.toList, Text.isBlank c = true) →
        (∀ c ∈ after.toList, Text.isBlank c = true) → (toString n.natAbs).length ≤ 4300 →
        stored p.key = some (before ++ toString n ++ after) →
        (sv.run (p.read bound) w).1 =
          .ok (if p.least.all (fun m => decide (m ≤ n)) then n else p.fallback)) ∧
      (∀ text, stored p.key = some text → (∀ n, ¬Text.Spells text n) →
        (sv.run (p.read bound) w).1 = .ok p.fallback) ∧
      (stored p.key = none → (sv.run (p.read bound) w).1 = .ok p.fallback)) ∧
    ∀ (σ : Type) (h : Handler σ),
      (∀ n t, ∃ draw, (h (.randomPassword n) t).1 = Credential.random draw n) →
      ∀ (outer : Log.Context) (a : Assertion) (provider : String) (t : σ) (u : User)
        (password actor : Option String) (reply : Except Failure (Option User)),
        ⟨.persist u password actor, reply⟩ ∈
          (Linking.linkOrCreate site outer a provider).transcript h t →
        ∃ drawn, password = some drawn ∧ 16 ≤ drawn.length ∧
          ∀ c ∈ drawn.toList, c ∈ Credential.alphabet := by
  intro s sv stored
  obtain ⟨hlogin, hpassword⟩ := Settings.read_valid hread
  have hwhole : ∀ p ∈ Policy.wholePolicies s, (sv.run (p.read bound) w).1 =
      .ok (Policy.whole p.fallback p.least (stored p.key)).value := by
    intro p hp
    rw [Policy.read_of_mem hp]
    exact (Program.answers_readWhole bound _ _ _).run_of_open hopen
  refine ⟨⟨?_, ?_, ?_, ?_, ?_, ?_, ?_, ?_⟩, fun p hp => ⟨?_, ?_, ?_⟩, ?_⟩
  · exact ⟨_, (Program.answers_readFlag bound _ _).run_of_open hopen⟩
  · exact ⟨_, (Program.answers_selfRegistration s bound).run_of_open hopen⟩
  · exact ⟨_, ((Program.answers_configValue _).map (Policy.baseUrlOf s)).run_of_open hopen⟩
  · exact ⟨_, ((Program.answers_readText _ _).map fun id => id.filter (· ≠ "")).run_of_open hopen⟩
  · exact ⟨_, (Program.answers_readWhole bound _ _ none).run_of_open hopen⟩
  · exact ⟨_, ((Program.answers_readText _ _).map (Policy.textOr s.defaultTimezone)).run_of_open hopen⟩
  · exact ⟨_, (Program.answers_loginLength s bound).run_of_open hopen, Policy.le_whole hlogin _⟩
  · exact ⟨_, (Program.answers_passwordLength s bound).run_of_open hopen,
      Policy.le_whole hpassword _⟩
  · intro before after n hbefore hafter hdigits hstored
    rw [hwhole p hp, hstored, Policy.whole_of_spells (Text.spells_decimal hbefore hafter n hdigits)]
  · intro text hstored hspells
    rw [hwhole p hp, hstored, Policy.whole_of_not_spells hspells]
  · intro hstored
    rw [hwhole p hp, hstored]
    rfl
  · intro σ h hrandom outer a provider t u password actor reply hx
    obtain ⟨drawn, rfl, hlong, halphabet⟩ :=
      Linking.linkOrCreate_password ⟨hlogin, hpassword⟩ hrandom hx
    exact ⟨drawn, rfl, Int.ofNat_le.mp hlong, halphabet⟩

/-- A length that is too small is stored, with a blank in front of it: it is ignored, and an account
that is linked gets a longer password. -/
theorem stored_policies_bounded_ignored :
    let site : Installation := {}
    let around := { Surroundings.numbered with randomPassword := Credential.random fun i => i }
    let sv : Service := { site, around }
    let w : World := { session := { lasting := { configuration :=
      [⟨Policy.Key.passwordLength.name, some " 15", none⟩] } } }
    let link := Linking.linkOrCreate site {} { uid := "alice" } "google"
    Settings.read {} = .ok site.settings ∧ w.isOpen = true ∧
      (sv.run (Policy.passwordLength site.settings {}) w).1 = .ok 25 ∧
      ∃ u password actor reply,
        ⟨.persist u password actor, reply⟩ ∈ link.transcript sv.answer w ∧
        ∃ drawn, password = some drawn ∧ 16 ≤ drawn.length := by
  intro site around sv w link
  have hread : Settings.read {} = .ok site.settings := rfl
  have hopen : w.isOpen = true := rfl
  obtain ⟨-, hwhole, hdrawn⟩ := stored_policies_bounded hread around w hopen {}
  have hblank : ∀ c ∈ " ".toList, Text.isBlank c = true := by
    simp only [String.reduceToList, List.mem_singleton, forall_eq]
    decide +kernel
  have hlength := (hwhole _ (.tail _ (.head _))).1 " " "" 15 hblank (by simp) (by decide +kernel)
    (by decide +kernel)
  have hpersist : (link.transcript sv.answer w).any (·.call.isPersist) = true := by decide +kernel
  obtain ⟨⟨c, reply⟩, hmem, hx⟩ := List.any_eq_true.mp hpersist
  cases c with
  | persist u password actor =>
    obtain ⟨drawn, hpassword, hlong, -⟩ := hdrawn World sv.answer (fun n t => ⟨_, rfl⟩) {}
      { uid := "alice" } "google" w u password actor reply hmem
    exact ⟨hread, hopen, hlength, u, password, actor, reply, hmem, drawn, hpassword, hlong⟩
  | _ => cases hx

end Enrollment
