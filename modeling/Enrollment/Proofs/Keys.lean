/-
The unique keys of active accounts, and the tables that keep them apart.

* `Row.Apart` — two rows may stand beside each other: they have different ids, and there is no key
  that both occupy;
* `Tables.Sound` — the rows stand apart pairwise, and an empty domain is stored as none;
* `Sound.write` — a write that is not refused leads from sound tables to sound tables, whether it
  adds a row, changes one, deletes an account or takes a deletion back;
* `Sound.eq_of_id_eq`, `Sound.accountByLogin` — in sound tables an id names one row, and the
  question for the account of a login never finds two.
-/
import Mathlib
import Enrollment.Directory.Lookup

namespace Enrollment.Directory

/-! ### Keys that clash -/

theorem clash_eq_true {a b : Option Key} : clash a b = true ↔ ∃ k, a = some k ∧ b = some k := by
  cases a with
  | none => simp [clash]
  | some k => simp [clash, eq_comm]

theorem clash_comm (a b : Option Key) : clash a b = clash b a := by
  rw [Bool.eq_iff_iff, clash_eq_true, clash_eq_true]
  exact ⟨fun ⟨k, ha, hb⟩ => ⟨k, hb, ha⟩, fun ⟨k, hb, ha⟩ => ⟨k, ha, hb⟩⟩

/-- Whether a row would take an email that one of the other rows has. -/
def emailTakenBy (others : List Row) (r : Row) : Bool :=
  others.any fun o => clash r.emailKey? o.emailKey?

/-- Whether a row would take a login that one of the other rows has. -/
def loginTakenBy (others : List Row) (r : Row) : Bool :=
  others.any fun o => clash r.loginKey? o.loginKey?

variable {others : List Row} {r : Row}

theorem brokenRule?_eq_none :
    brokenRule? others r = none ↔ emailTakenBy others r = false ∧ loginTakenBy others r = false := by
  rw [brokenRule?, ← emailTakenBy, ← loginTakenBy]
  cases emailTakenBy others r <;> cases loginTakenBy others r <;> simp

theorem brokenRule?_eq_emailTaken :
    brokenRule? others r = some .emailTaken ↔ emailTakenBy others r = true := by
  rw [brokenRule?, ← emailTakenBy, ← loginTakenBy]
  cases emailTakenBy others r <;> cases loginTakenBy others r <;> simp

theorem brokenRule?_eq_loginTaken :
    brokenRule? others r = some .loginTaken ↔
      emailTakenBy others r = false ∧ loginTakenBy others r = true := by
  rw [brokenRule?, ← emailTakenBy, ← loginTakenBy]
  cases emailTakenBy others r <;> cases loginTakenBy others r <;> simp

/-! ### Who holds a key -/

theorem Row.inScope_eq_true {r : Row} {s : Scope} :
    r.inScope s = true ↔
      r.active = true ∧ r.fields.type = s.type ∧ r.fields.domain = filled s.domain := by
  simp [Row.inScope, and_assoc]

/-- An active account of the scope has the login. -/
structure Row.HoldsLogin (o : Row) (s : Scope) (login : String) : Prop where
  scope : o.inScope s = true
  login : o.fields.login = login

/-- An active account of the scope has the email, ASCII capitals made small. -/
structure Row.HoldsEmail (o : Row) (s : Scope) (e : String) : Prop where
  scope : o.inScope s = true
  email : ∃ f, o.fields.email = some f ∧ Text.asciiLower f = Text.asciiLower e

theorem asciiLower_eq_empty {s : String} : Text.asciiLower s = "" ↔ s = "" := by
  simp [Text.asciiLower]

theorem filled_of_ne {s : String} (h : s ≠ "") : filled (some s) = some s := by
  simp [filled, Option.filter, h]

theorem filled_filled (s : Option String) : filled (filled s) = filled s := by
  simp [filled, Option.filter_filter]

theorem loginTakenBy_iff {s : Scope} (hr : r.inScope s = true) :
    loginTakenBy others r = true ↔ ∃ o ∈ others, o.HoldsLogin s r.fields.login := by
  obtain ⟨hactive, htype, hdomain⟩ := Row.inScope_eq_true.mp hr
  rw [loginTakenBy, List.any_eq_true]
  refine exists_congr fun o => and_congr_right fun _ => ?_
  rw [clash_eq_true, Row.loginKey?, if_pos hactive]
  constructor
  · rintro ⟨k, hk, ho⟩
    cases hk
    rw [Row.loginKey?] at ho
    split at ho
    · rename_i hactive'
      rw [Option.some.injEq, Key.mk.injEq] at ho
      obtain ⟨hl, ht, hd⟩ := ho
      exact ⟨Row.inScope_eq_true.mpr ⟨hactive', ht.trans htype, hd.trans hdomain⟩, hl⟩
    · cases ho
  · rintro ⟨hscope, hlogin⟩
    obtain ⟨hactive', htype', hdomain'⟩ := Row.inScope_eq_true.mp hscope
    refine ⟨_, rfl, ?_⟩
    rw [Row.loginKey?, if_pos hactive', hlogin, htype, hdomain, htype', hdomain']

theorem emailTakenBy_iff {s : Scope} {e : String} (hr : r.inScope s = true)
    (he : r.fields.email = some e) (hne : e ≠ "") :
    emailTakenBy others r = true ↔ ∃ o ∈ others, o.HoldsEmail s e := by
  obtain ⟨hactive, htype, hdomain⟩ := Row.inScope_eq_true.mp hr
  rw [emailTakenBy, List.any_eq_true]
  refine exists_congr fun o => and_congr_right fun _ => ?_
  rw [clash_eq_true, Row.emailKey?, if_pos hactive, he, filled_of_ne hne]
  constructor
  · rintro ⟨k, hk, ho⟩
    cases hk
    rw [Row.emailKey?] at ho
    split at ho
    · rename_i hactive'
      obtain ⟨f, hf, hkey⟩ := Option.map_eq_some_iff.mp ho
      rw [Key.mk.injEq] at hkey
      obtain ⟨hef, ht, hd⟩ := hkey
      refine ⟨Row.inScope_eq_true.mpr ⟨hactive', ht.trans htype, hd.trans hdomain⟩, f, ?_, hef⟩
      exact (Option.filter_eq_some_iff.mp hf).1
    · cases ho
  · rintro ⟨hscope, f, hf, hef⟩
    obtain ⟨hactive', htype', hdomain'⟩ := Row.inScope_eq_true.mp hscope
    have hfne : f ≠ "" := fun h => hne (asciiLower_eq_empty.mp (by rw [← hef, h]; rfl))
    refine ⟨_, rfl, ?_⟩
    rw [Row.emailKey?, if_pos hactive', hf, filled_of_ne hfne, Option.map_some, hef, htype, hdomain,
      htype', hdomain']

/-- Only an active account takes a login. -/
theorem active_of_loginTakenBy (h : loginTakenBy others r = true) : r.active = true := by
  obtain ⟨o, -, hclash⟩ := List.any_eq_true.mp h
  obtain ⟨k, hk, -⟩ := clash_eq_true.mp hclash
  rw [Row.loginKey?] at hk
  split at hk
  · assumption
  · cases hk

/-- Only an active account with an email takes one. -/
theorem email_of_emailTakenBy (h : emailTakenBy others r = true) :
    r.active = true ∧ ∃ e, r.fields.email = some e ∧ e ≠ "" := by
  obtain ⟨o, -, hclash⟩ := List.any_eq_true.mp h
  obtain ⟨k, hk, -⟩ := clash_eq_true.mp hclash
  rw [Row.emailKey?] at hk
  split at hk
  · rename_i hactive
    obtain ⟨e, he, -⟩ := Option.map_eq_some_iff.mp hk
    obtain ⟨hemail, hne⟩ := Option.filter_eq_some_iff.mp he
    exact ⟨hactive, e, hemail, by simpa using hne⟩
  · cases hk

/-- Two rows may stand beside each other. -/
structure Row.Apart (a b : Row) : Prop where
  ids : a.id ≠ b.id
  emails : clash a.emailKey? b.emailKey? = false
  logins : clash a.loginKey? b.loginKey? = false

theorem Row.Apart.symm {a b : Row} (h : a.Apart b) : b.Apart a :=
  ⟨h.ids.symm, clash_comm _ _ ▸ h.emails, clash_comm _ _ ▸ h.logins⟩

instance : Std.Symm Row.Apart := ⟨fun _ _ => Row.Apart.symm⟩

/-! ### Sound tables -/

namespace Tables

/-- The rows stand apart, and no row has an empty domain. -/
structure Sound (t : Tables) : Prop where
  apart : t.users.Pairwise Row.Apart
  domains : ∀ r ∈ t.users, filled r.fields.domain = r.fields.domain

theorem sound_empty : Sound {} := ⟨List.Pairwise.nil, by simp⟩

/-- A row that is written brings no empty domain. -/
def Write.Normal (w : Write) : Prop := filled w.row.fields.domain = w.row.fields.domain

variable {t t' : Tables} {w : Write}

theorem write_eq_ok :
    t.write w = .ok t' ↔
      t.refusal? w = none ∧
        t' = { t with users := t.usersAfter w, members := t.membersAfter w } := by
  rw [write]
  cases t.refusal? w with
  | some e => simp
  | none => simp [eq_comm]

theorem write_eq_error {e : Failure} : t.write w = .error e ↔ t.refusal? w = some e := by
  rw [write]
  cases t.refusal? w with
  | some e => simp
  | none => simp

/-- The numbers of a row fit their columns. -/
def Write.Fits (w : Write) : Prop :=
  (w.row.fields.languageId.map Text.fitsWord).getD true = true

/-- A new row has an id of its own, and the groups that the account joins exist and are named
once. -/
structure Joinable (t : Tables) (w : Write) : Prop where
  id : w.fresh = true → t.row? w.row.id = none
  once : hasTwice (t.joining w) = false
  groups : ∀ g ∈ t.joining w, (t.group? g).isSome = true

/-- Why a write is refused, or that it is not: the first rule that is broken is named. -/
inductive Refusal (t : Tables) (w : Write) : Option Failure → Prop where
  | tooLarge (hfits : ¬ w.Fits) : Refusal t w (some .integerTooLarge)
  | emailTaken (hfits : w.Fits) (hemail : emailTakenBy (t.beside w) w.row = true) :
    Refusal t w (some (.refused .emailTaken))
  | loginTaken (hfits : w.Fits) (hemail : emailTakenBy (t.beside w) w.row = false)
      (hlogin : loginTakenBy (t.beside w) w.row = true) :
    Refusal t w (some (.refused .loginTaken))
  /-- Neither key is taken: what is reported as a taken login is an id or a group. -/
  | unjoinable (hfits : w.Fits) (hemail : emailTakenBy (t.beside w) w.row = false)
      (hlogin : loginTakenBy (t.beside w) w.row = false) (h : ¬ t.Joinable w) {rule : Constraint}
      (hrule : rule.field = "login") : Refusal t w (some (.refused rule))
  | none (hfits : w.Fits) (hemail : emailTakenBy (t.beside w) w.row = false)
      (hlogin : loginTakenBy (t.beside w) w.row = false) (h : t.Joinable w) : Refusal t w none

theorem refusal (t : Tables) (w : Write) : Refusal t w (t.refusal? w) := by
  rw [refusal?]
  -- The rules are tried in order; what is known of a rule that is kept serves the later cases.
  by_cases hfits : w.Fits
  · rw [if_neg (by rw [Write.Fits] at hfits; simp [hfits])]
    cases hemail : emailTakenBy (t.beside w) w.row with
    | true =>
      rw [brokenRule?_eq_emailTaken.mpr hemail]
      exact .emailTaken hfits hemail
    | false =>
      cases hlogin : loginTakenBy (t.beside w) w.row with
      | true =>
        rw [brokenRule?_eq_loginTaken.mpr ⟨hemail, hlogin⟩]
        exact .loginTaken hfits hemail hlogin
      | false =>
        rw [brokenRule?_eq_none.mpr ⟨hemail, hlogin⟩]
        dsimp only
        split
        · rename_i hid
          rw [Bool.and_eq_true] at hid
          refine .unjoinable hfits hemail hlogin (fun h => ?_) rfl
          rw [h.id hid.1] at hid
          cases hid.2
        split
        · rename_i htwice
          refine .unjoinable hfits hemail hlogin (fun h => ?_) rfl
          rw [h.once] at htwice
          cases htwice
        split
        · rename_i hmissing
          obtain ⟨g, hg, hnone⟩ := List.any_eq_true.mp hmissing
          refine .unjoinable hfits hemail hlogin (fun h => ?_) rfl
          rw [Option.isNone_iff_eq_none] at hnone
          simpa [hnone] using h.groups g hg
        · rename_i hid htwice hmissing
          refine .none hfits hemail hlogin ⟨fun hfresh => ?_, by simpa using htwice, fun g hg => ?_⟩
          · simpa [hfresh] using hid
          · rw [Bool.not_eq_true] at hmissing
            have hsome := List.any_eq_false.mp hmissing g hg
            simpa [Option.isSome_iff_ne_none] using hsome
  · rw [if_pos (by simpa [Write.Fits] using hfits)]
    exact .tooLarge hfits

/-- A row that is not refused stands apart from all rows it is not to replace. -/
theorem apart_of_refusal?_eq_none (h : t.refusal? w = none) : ∀ o ∈ t.beside w, w.row.Apart o := by
  have hrefusal := t.refusal w
  rw [h] at hrefusal
  cases hrefusal with
  | none _ hemail hlogin hjoinable =>
    intro o ho
    refine ⟨?_, ?_, ?_⟩
    · -- A known account is not beside itself; a new one whose id is in use has been refused.
      cases hfresh : w.fresh with
      | false =>
        rw [beside, if_neg (by simp [hfresh]), List.mem_filter] at ho
        exact fun hid => absurd hid.symm (by simpa using ho.2)
      | true =>
        rw [beside, if_pos hfresh] at ho
        have hrow := List.find?_eq_none.mp (hjoinable.id hfresh) o ho
        exact fun hid => by simp [hid] at hrow
    · simpa using List.any_eq_false.mp hemail o ho
    · simpa using List.any_eq_false.mp hlogin o ho

/-- Rows that stood apart still do after a row that stands apart from the others was written. -/
theorem pairwise_usersAfter (ht : t.users.Pairwise Row.Apart)
    (hw : ∀ o ∈ t.beside w, w.row.Apart o) : (t.usersAfter w).Pairwise Row.Apart := by
  rw [usersAfter]
  rw [beside] at hw
  split
  · rename_i hf
    rw [if_pos hf] at hw
    refine List.pairwise_append.mpr ⟨ht, List.pairwise_singleton _ _, ?_⟩
    intro a ha b hb
    rw [List.mem_singleton] at hb
    exact hb ▸ (hw a ha).symm
  · rename_i hf
    rw [if_neg hf] at hw
    rw [List.pairwise_map]
    refine ht.imp_of_mem ?_
    intro a b ha hb hab
    -- Of two rows one at most is replaced, since their ids differ.
    by_cases hida : a.id = w.row.id
    · have hidb : b.id ≠ w.row.id := fun h => hab.ids (hida.trans h.symm)
      rw [if_pos hida, if_neg hidb]
      exact hw b (List.mem_filter.mpr ⟨hb, by simpa using hidb⟩)
    · rw [if_neg hida]
      split
      · exact (hw a (List.mem_filter.mpr ⟨ha, by simpa using hida⟩)).symm
      · exact hab

theorem mem_usersAfter (hr : r ∈ t.usersAfter w) : r ∈ t.users ∨ r = w.row := by
  rw [usersAfter] at hr
  split at hr
  · simpa using hr
  · obtain ⟨o, ho, rfl⟩ := List.mem_map.mp hr
    split
    · exact .inr rfl
    · exact .inl ho

/-- **Sound tables stay sound** under every write that is not refused. -/
theorem Sound.write (ht : t.Sound) (hw : w.Normal) (h : t.write w = .ok t') : t'.Sound := by
  obtain ⟨hrefusal, rfl⟩ := write_eq_ok.mp h
  refine ⟨pairwise_usersAfter ht.apart (apart_of_refusal?_eq_none hrefusal), ?_⟩
  intro r hr
  rcases mem_usersAfter hr with hr | rfl
  · exact ht.domains r hr
  · exact hw

/-- The rows are what soundness speaks of. -/
theorem Sound.of_users (ht : t.Sound) (h : t'.users = t.users) : t'.Sound :=
  ⟨h ▸ ht.apart, h ▸ ht.domains⟩

/-! ### Questions for one account -/

theorem Sound.eq_of_id_eq (ht : t.Sound) {a b : Row} (ha : a ∈ t.users) (hb : b ∈ t.users)
    (h : a.id = b.id) : a = b := by
  by_contra hne
  exact (ht.apart.forall ha hb hne).ids h

theorem mem_of_row? {id : String} (h : t.row? id = some r) : r ∈ t.users ∧ r.id = id :=
  ⟨List.mem_of_find?_eq_some h, by simpa using List.find?_some h⟩

/-- A condition that no two rows which stand apart both satisfy selects at most one account. -/
theorem Sound.only (ht : t.Sound) {p : Row → Bool}
    (hp : ∀ a b, p a = true → p b = true → ¬ a.Apart b) :
    ∃ found : Option Row, t.only p = .ok (found.map t.user) ∧
      ∀ r, r ∈ t.users ∧ p r = true ↔ found = some r := by
  have hmem : ∀ r, r ∈ t.users ∧ p r = true ↔ r ∈ t.users.filter p := by
    intro r
    rw [List.mem_filter]
  have hapart : (t.users.filter p).Pairwise Row.Apart := ht.apart.filter p
  rw [Tables.only]
  simp only [hmem]
  rcases hrows : t.users.filter p with _ | ⟨a, _ | ⟨b, rest⟩⟩
  · exact ⟨none, rfl, fun r => by simp⟩
  · exact ⟨some a, rfl, fun r => by simp [eq_comm]⟩
  · -- Two rows would be selected that stand apart.
    have hab : a.Apart b := by
      rw [hrows] at hapart
      exact List.rel_of_pairwise_cons hapart List.mem_cons_self
    have ha : a ∈ t.users.filter p := by simp [hrows]
    have hb : b ∈ t.users.filter p := by simp [hrows]
    exact absurd hab (hp a b (List.of_mem_filter ha) (List.of_mem_filter hb))

/-- **The question for the account of a login** is answered by the one active row of the scope
that has the login, and never fails. -/
theorem Sound.accountByLogin (ht : t.Sound) (login : String) (s : Scope) :
    ∃ found : Option Row, t.accountByLogin login s = .ok (found.map t.user) ∧
      ∀ r, r ∈ t.users ∧ (r.inScope s && r.fields.login = login) = true ↔ found = some r := by
  refine ht.only fun a b ha hb hab => ?_
  simp only [Bool.and_eq_true, Row.inScope_eq_true, decide_eq_true_eq] at ha hb
  obtain ⟨⟨haa, hat, had⟩, hal⟩ := ha
  obtain ⟨⟨hba, hbt, hbd⟩, hbl⟩ := hb
  have hclash : clash a.loginKey? b.loginKey? = true := by
    rw [clash_eq_true]
    refine ⟨⟨login, s.type, filled s.domain⟩, ?_, ?_⟩
    · rw [Row.loginKey?, if_pos haa, hal, hat, had]
    · rw [Row.loginKey?, if_pos hba, hbl, hbt, hbd]
  rw [hab.logins] at hclash
  cases hclash

/-- The account that is found is that of a row of the scope with the login. -/
theorem Sound.of_accountByLogin (ht : t.Sound) {login : String} {s : Scope} {u : User}
    (h : t.accountByLogin login s = .ok (some u)) :
    ∃ r ∈ t.users, r.inScope s = true ∧ r.fields.login = login ∧ u = t.user r := by
  obtain ⟨found, hanswer, hrow⟩ := ht.accountByLogin login s
  cases found with
  | none => cases h.symm.trans hanswer
  | some r =>
    cases h.symm.trans hanswer
    obtain ⟨hr, hmatch⟩ := (hrow r).mpr rfl
    rw [Bool.and_eq_true, decide_eq_true_eq] at hmatch
    exact ⟨r, hr, hmatch.1, hmatch.2, rfl⟩

/-- Every row of the scope with the login is found. -/
theorem Sound.accountByLogin_of_mem (ht : t.Sound) {r : Row} (hr : r ∈ t.users) {s : Scope}
    (hscope : r.inScope s = true) :
    t.accountByLogin r.fields.login s = .ok (some (t.user r)) := by
  obtain ⟨found, hanswer, hrow⟩ := ht.accountByLogin r.fields.login s
  have hfound : found = some r := (hrow r).mp ⟨hr, by simp [hscope]⟩
  rw [hanswer, hfound]
  rfl

/-! ### Questions whether a key is free -/

variable {s : Scope} {exclude : Option String}

/-- A login is not free where another active account of the scope has it. -/
theorem loginFree_eq_false {login : String} :
    t.loginFree login s exclude = false ↔
      ∃ o ∈ t.users, o.HoldsLogin s login ∧ o.counts exclude = true := by
  rw [loginFree]
  simp only [Bool.not_eq_false', List.any_eq_true, Bool.and_eq_true, decide_eq_true_eq]
  refine exists_congr fun o => and_congr_right fun _ => ?_
  exact ⟨fun ⟨⟨hs, hl⟩, hc⟩ => ⟨⟨hs, hl⟩, hc⟩, fun ⟨⟨hs, hl⟩, hc⟩ => ⟨⟨hs, hl⟩, hc⟩⟩

theorem hasEmail_eq_true {o : Row} {small : String} :
    hasEmail o small = true ↔ ∃ f, o.fields.email = some f ∧ Text.asciiLower f = small := by
  simp [hasEmail, Option.any_eq_true]

/-- An email is not free where a stored email, its ASCII capitals made small, is the small form of
the email asked about. -/
theorem emailFree_eq_false {e : String} (he : e ≠ "") :
    t.emailFree (some e) s exclude = false ↔
      ∃ o ∈ t.users, o.inScope s = true ∧ hasEmail o (Text.lower e) = true ∧
        o.counts exclude = true := by
  rw [emailFree, filled_of_ne he]
  simp only [Bool.not_eq_false', List.any_eq_true, Bool.and_eq_true, and_assoc]

end Tables
end Enrollment.Directory
