/-
Which logins are accepted.

A login has a minimum length, and neither white space nor control characters stand in it.  The check
knows the white space of all scripts; of the control characters it knows those of ASCII only, and
the next line, which is white space.

* `Login.WellFormed` — the rule that a login is to keep, apart from the check;
* `Login.isValid_iff`, `Login.wellFormed_iff` — what the check comes to, and what the rule asks
  beyond it: that there is no upper control;
* `Registration.registerUser_ne_loginTooShort` — a valid login is never too short to register;
* `Linking.linkOrCreate_login` — the account that a linking stores has a valid login;
* `valid_logins_wellFormed_iff` — a login that is valid keeps the rule exactly if no upper control
  stands in it, and so does the login of an account that is linked.
-/
import Enrollment.Proofs.Provenance

namespace Enrollment

open Directory

variable {sv : Service} {w : World}

/-! ### Classes of characters -/

namespace Text

/-- White space of any script. -/
def isWhiteSpace (c : Char) : Bool :=
  inRanges #[(0x09, 0x0d), (0x20, 0x20), (0x85, 0x85), (0xa0, 0xa0), (0x1680, 0x1680),
    (0x2000, 0x200a), (0x2028, 0x2029), (0x202f, 0x202f), (0x205f, 0x205f), (0x3000, 0x3000)] c.toNat

/-- The control characters: those of ASCII, and the upper ones. -/
def isControl (c : Char) : Bool := inRanges #[(0x00, 0x1f), (0x7f, 0x9f)] c.toNat

/-- The control characters beyond ASCII. -/
def isUpperControl (c : Char) : Bool := inRanges #[(0x80, 0x9f)] c.toNat

theorem isControl_of_upper {c : Char} (h : isUpperControl c = true) : isControl c = true := by
  simp only [isUpperControl, isControl, inRanges, List.any_toArray, List.any_cons, List.any_nil,
    Bool.or_false, Bool.or_eq_true, Bool.and_eq_true, decide_eq_true_eq] at h ⊢
  omega

end Text

/-! ### The rule and the check -/

namespace Login

open Text

variable {minimum : Int} {login : String} {c : Char}

/-- The rule for logins. -/
structure WellFormed (minimum : Int) (login : String) : Prop where
  nonempty : login ≠ ""
  long : minimum ≤ login.length
  visible : ∀ c ∈ login.toList, isWhiteSpace c = false ∧ isControl c = false

/-- The check lets through what is no white space, and of the controls the upper ones. -/
theorem isForbidden_eq_false :
    isForbidden c = false ↔
      isWhiteSpace c = false ∧ (isControl c = true → isUpperControl c = true) := by
  simp only [isForbidden, isBlank, blankRanges, isWhiteSpace, isControl, isUpperControl, inRanges,
    List.any_toArray, List.any_cons, List.any_nil, Bool.or_false, Bool.or_eq_false_iff,
    Bool.and_eq_false_iff, Bool.or_eq_true, Bool.and_eq_true, decide_eq_true_eq,
    decide_eq_false_iff_not]
  omega

theorem isLongEnough_iff :
    isLongEnough minimum login = true ↔ login ≠ "" ∧ minimum ≤ login.length := by
  rw [isLongEnough, Bool.and_eq_true, decide_eq_true_eq, decide_eq_true_eq]

theorem isValid_eq :
    isValid minimum login =
      (isLongEnough minimum login && login.toList.all fun c => !isForbidden c) := by
  rw [isValid, problems, isLongEnough, ← List.not_any_eq_all_not]
  by_cases hempty : login = ""
  · rw [if_pos hempty]
    simp [hempty]
  · rw [if_neg hempty]
    by_cases hlong : minimum ≤ (login.length : Int)
    · rw [if_neg (Int.not_lt.mpr hlong)]
      cases login.toList.any isForbidden <;> simp [hempty, hlong]
    · rw [if_pos (Int.not_le.mp hlong)]
      simp [hlong]

/-- **What the check comes to**: length, and no white space and no control but for the upper ones. -/
theorem isValid_iff :
    isValid minimum login = true ↔ login ≠ "" ∧ minimum ≤ login.length ∧
      ∀ c ∈ login.toList,
        isWhiteSpace c = false ∧ (isControl c = true → isUpperControl c = true) := by
  simp only [isValid_eq, Bool.and_eq_true, isLongEnough_iff, List.all_eq_true, Bool.not_eq_true',
    isForbidden_eq_false, and_assoc]

/-- The two rules on length agree. -/
theorem isLongEnough_of_isValid (h : isValid minimum login = true) :
    isLongEnough minimum login = true :=
  isLongEnough_iff.mpr ⟨(isValid_iff.mp h).1, (isValid_iff.mp h).2.1⟩

/-- The rule asks beyond the check that there is no upper control. -/
theorem wellFormed_iff :
    WellFormed minimum login ↔
      isValid minimum login = true ∧ ∀ c ∈ login.toList, isUpperControl c = false := by
  rw [isValid_iff]
  constructor
  · intro h
    refine ⟨⟨h.nonempty, h.long, fun c hc => ⟨(h.visible c hc).1, fun hcontrol => ?_⟩⟩,
      fun c hc => ?_⟩
    · rw [(h.visible c hc).2] at hcontrol
      cases hcontrol
    · exact Bool.eq_false_iff.mpr fun hupper =>
        Bool.eq_false_iff.mp (h.visible c hc).2 (isControl_of_upper hupper)
  · rintro ⟨⟨hnonempty, hlong, hclasses⟩, hupper⟩
    refine ⟨hnonempty, hlong, fun c hc => ⟨(hclasses c hc).1, ?_⟩⟩
    exact Bool.eq_false_iff.mpr fun hcontrol =>
      Bool.eq_false_iff.mp (hupper c hc) ((hclasses c hc).2 hcontrol)

end Login

/-! ### The workflows -/

namespace Registration

/-- **A login that is long enough is never too short to register.** -/
theorem registerUser_ne_loginTooShort (outer : Log.Context) {candidate : User}
    (hlong : Login.isLongEnough (w.tables.loginLength sv.site.settings) candidate.login = true)
    (password token : Option String) :
    (sv.run (registerUser sv.site outer candidate password token) w).1 ≠
      .ok (.reject .loginTooShort) := by
  intro hshort
  obtain ⟨r₀, w₀, hended, hwrapped⟩ := registerUser_ended sv w outer candidate password token
  obtain rfl : r₀ = .ok (.reject .loginTooShort) := hwrapped.eq_ok_iff.mp hshort
  generalize hr : (Except.ok (Outcome.reject .loginTooShort) : Except Failure Outcome) = r at hended
  cases hended with
  | tooShort _ hshort =>
    rw [hlong] at hshort
    cases hshort
  | lost =>
    rw [lostTo] at hr
    split at hr <;> cases hr
  | _ => cases hr

end Registration

namespace Linking

/-- **The account that a linking stores has a valid login**, and all others are as they were: whether
or not the linking succeeds, a row afterwards is one that was seen or that lasted before, or that of
the assertion. -/
theorem linkOrCreate_login (hw : w.session.Orderly) (hhash : sv.around.PlainHasher)
    (outer : Log.Context) (a : Assertion) (provider : String) :
    let after := (sv.run (linkOrCreate sv.site outer a provider) w).2
    ∀ r ∈ after.tables.users,
      r ∈ w.tables.users ∨ r ∈ w.session.lasting.users ∨ r.fields.login = a.uid ∧
        Login.isValid (after.tables.loginLength sv.site.settings) a.uid = true := by
  intro after r hr
  have hseen : ∀ {s : Session}, w.session.Left s → r ∈ s.working.users →
      r ∈ w.tables.users ∨ r ∈ w.session.lasting.users := by
    intro s hleft hmem
    refine hleft.working.imp (fun h => ?_) fun h => ?_
    · rwa [h] at hmem
    · rwa [h] at hmem
  by_cases hsucceeded : Succeeded (sv.run (linkOrCreate sv.site outer a provider) w).1
  · obtain ⟨w₁, account, t', hdone, hsession, -⟩ :=
      linkOrCreate_linked hw.lasting hw.working hw.staged hhash outer a provider hsucceeded
    have htables : after.tables = t' := by
      rw [World.tables, hsession]
    rw [htables] at hr ⊢
    by_cases hsame : r.id = account.id
    · obtain rfl := hdone.consistent.toSound.eq_of_id_eq hr hdone.enters.mem hsame
      rw [Tables.loginLength_congr hdone.enters.configuration]
      exact .inr (.inr ⟨hdone.linked.login, hdone.valid⟩)
    · exact (hseen hdone.left (hdone.enters.mem_of_ne hr hsame)).imp_right .inl
  · have hleft := linkOrCreate_left hw.staged hhash outer a provider hsucceeded
    exact (hseen hleft hr).imp_right .inl

end Linking

/-! ### Logins that are valid -/

open Login Text

/-- What is made of logins, in the check and in the workflows. -/
structure LoginsChecked (sv : Service) : Prop where
  /-- What the check comes to. -/
  valid : ∀ minimum login, isValid minimum login = true ↔
    login ≠ "" ∧ minimum ≤ login.length ∧ ∀ c ∈ login.toList,
      isWhiteSpace c = false ∧ (isControl c = true → isUpperControl c = true)
  /-- No login that keeps the rule is refused, and one that is valid keeps the rule exactly if no
  upper control stands in it. -/
  exact : ∀ minimum login, (WellFormed minimum login → isValid minimum login = true) ∧
    (isValid minimum login = true →
      (WellFormed minimum login ↔ ∀ c ∈ login.toList, isUpperControl c = false))
  /-- A valid login is long enough, and so is never turned down as too short under the same minimum. -/
  registered : ∀ minimum login, isValid minimum login = true →
    isLongEnough minimum login = true ∧
      ∀ (w : World) outer (candidate : User) password token, candidate.login = login →
        w.tables.loginLength sv.site.settings = minimum →
        (sv.run (Registration.registerUser sv.site outer candidate password token) w).1 ≠
          .ok (.reject .loginTooShort)
  /-- No account that a linking stores has white space or an ASCII control in its login, and its login
  keeps the rule exactly if no upper control stands in it. -/
  linked : ∀ w : World, w.session.Orderly → ∀ outer a provider,
    let after := (sv.run (Linking.linkOrCreate sv.site outer a provider) w).2
    ∀ r ∈ after.tables.users, r ∈ w.tables.users ∨ r ∈ w.session.lasting.users ∨
      r.fields.login = a.uid ∧
        (∀ c ∈ r.fields.login.toList,
          isWhiteSpace c = false ∧ (isControl c = true → isUpperControl c = true)) ∧
        (WellFormed (after.tables.loginLength sv.site.settings) r.fields.login ↔
          ∀ c ∈ r.fields.login.toList, isUpperControl c = false)

/-- **A valid login keeps the rule exactly if no upper control stands in it**, and so does the login of
an account that is linked. -/
theorem valid_logins_wellFormed_iff (sv : Service) (hhash : sv.around.PlainHasher) :
    LoginsChecked sv where
  valid _ _ := isValid_iff
  exact minimum login := by
    refine ⟨fun h => (wellFormed_iff.mp h).1, fun hvalid => ?_⟩
    rw [wellFormed_iff, and_iff_right hvalid]
  registered minimum login hvalid := by
    refine ⟨isLongEnough_of_isValid hvalid, ?_⟩
    rintro w outer candidate password token rfl rfl
    exact Registration.registerUser_ne_loginTooShort outer (isLongEnough_of_isValid hvalid) _ _
  linked w hw outer a provider := by
    intro after r hr
    refine (Linking.linkOrCreate_login hw hhash outer a provider r hr).imp_right fun h =>
      h.imp_right fun ⟨hlogin, hvalid⟩ => ?_
    rw [hlogin, wellFormed_iff, and_iff_right hvalid]
    exact ⟨rfl, (isValid_iff.mp hvalid).2.2, Iff.rfl⟩

/-- A login beyond ASCII, of exactly the minimum length. -/
theorem valid_logins_wellFormed_numbered :
    Service.numbered.around.PlainHasher ∧ LoginsChecked .numbered ∧
      isValid 3 "zoë" = true ∧ WellFormed 3 "zoë" := by
  have hhash := Service.numbered_proper.1
  have hvalid : isValid 3 "zoë" = true := by decide +kernel
  have hlower : ∀ c ∈ "zoë".toList, isUpperControl c = false := by
    simp [isUpperControl, inRanges]
  exact ⟨hhash, valid_logins_wellFormed_iff .numbered hhash, hvalid,
    (((valid_logins_wellFormed_iff .numbered hhash).exact 3 "zoë").2 hvalid).mpr hlower⟩

/-- A login with an upper control in it is valid though it breaks the rule, and an account is linked
with it. -/
theorem valid_logins_wellFormed_counterexample :
    isValid 4 "al\u0080ice" = true ∧ ¬ WellFormed 4 "al\u0080ice" ∧
      (World.after .numbered [.link { uid := "al\u0080ice" } "google"]).session.lasting.users.map
        (·.fields.login) = ["al\u0080ice"] := by
  refine ⟨by decide +kernel, fun h => ?_, by decide +kernel⟩
  have hcontrol : isControl '\u0080' = true := by decide +kernel
  have hvisible := (h.visible '\u0080' (by decide +kernel)).2
  rw [hcontrol] at hvisible
  cases hvisible

end Enrollment
