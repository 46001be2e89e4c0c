import Caretaker.Proofs.Desk.Preserving
import Caretaker.Proofs.TenantTables

/-!
# Creating a company

The creation of a company makes up to two writes.  The name is looked at before the first
one and the address of the administrator only after it, so the two are not one: a company
whose administrator is refused, or cannot be stored, stays behind without one.

When a creation ends well, exactly one company was added, under the trimmed name, and
exactly one administrator of it if the address was not blank.  When it does not, the
tables are as they were, but for the company if it had been stored.
-/

namespace Caretaker

open Job Text

/-! ## The tables -/

namespace Store

/-- The store with a further company. -/
def withCompany (s : Store) (company : Company) : Store :=
  { s with companies := s.companies ++ [.ofCompany company] }

/-- The store with a further user. -/
def withUser (s : Store) (user : User) : Store :=
  { s with users := s.users ++ [.ofUser user] }

variable {s stored : Store}

theorem exists_unit_iff {p : Unit → Prop} : (∃ u, p u) ↔ p () := by
  constructor
  · rintro ⟨u, holds⟩
    exact holds
  · exact fun holds => ⟨(), holds⟩

theorem addCompany_eq_ok_iff {company : Company} :
    s.addCompany company = .ok stored ↔ s.require .companies = .ok () ∧
      (∀ row ∈ s.companies, row.id ≠ company.id.text) ∧ s.withCompany company = stored := by
  rw [addCompany, bind_eq_ok_iff]
  simp only [refuse_eq_ok_iff, pure_eq_ok_iff, exists_and_right, List.any_eq_false, beq_iff_eq]
  exact and_congr_left' exists_unit_iff

theorem addUser_eq_ok_iff {user : User} :
    s.addUser user = .ok stored ↔ s.require .users = .ok () ∧
      (∀ row ∈ s.users, row.id ≠ user.id.text ∧ row.email ≠ user.email) ∧
      s.Registers user.companyId.text ∧ s.withUser user = stored := by
  rw [addUser, bind_eq_ok_iff]
  simp only [refuse_eq_ok_iff, pure_eq_ok_iff, exists_and_right, List.any_eq_false, beq_iff_eq,
    Bool.not_eq_false', hasCompany_iff, Bool.or_eq_true, not_or]
  exact and_congr_left' exists_unit_iff

/-- A company is found after it was stored under a new identifier. -/
theorem findCompany_withCompany (intact : s.Intact) {company : Company}
    (legible : company.createdAt.Legible) (new : ∀ row ∈ s.companies, row.id ≠ company.id.text) :
    (s.withCompany company).findCompany company.id = .ok (some company) := by
  have intact' : (s.withCompany company).Intact := intact
  have absent : s.companies.find? (fun row => row.id == company.id.text) = none := by
    simpa using new
  have found : (s.withCompany company).companies.find? (fun row => row.id == company.id.text) =
      some (.ofCompany company) := by
    rw [withCompany, List.find?_append, absent]
    simp [CompanyRow.ofCompany]
  have readBack : (CompanyRow.ofCompany company).company = .ok company := by
    rw [CompanyRow.company, CompanyRow.ofCompany, Stored.uuid_text, ok_bind,
      Stored.instant_eq_ok_iff.mpr ⟨legible, rfl⟩, ok_bind]
    rfl
  rw [findCompany, intact'.require, ok_bind, found, readOne, readBack]
  rfl

theorem withCompany_ne (s : Store) (company : Company) : s.withCompany company ≠ s := by
  intro same
  have lengths := congrArg (fun t : Store => t.companies.length) same
  simp [withCompany] at lengths

end Store

/-! ## The two writes -/

namespace Companies

/-- The address of the administrator who is wanted: the given one without the white space
around it, unless it is blank. -/
def address? (adminEmail : Option String) : Option String :=
  (adminEmail.filter fun email => !isBlank email).map trim

/-- The company that a creation at the desk is about. -/
def drawn (desk : Desk) (name : String) : Company where
  id := desk.source.id desk.source.drawn
  name := trim name
  createdAt := desk.source.now (desk.source.drawn + 1)

/-- The desk after the company was stored. -/
def founded (desk : Desk) (name : String) : Desk :=
  { desk with
    store := desk.store.withCompany (drawn desk name)
    source := { desk.source with drawn := desk.source.drawn + 2 } }

/-- The first write of a creation is made: the name is not blank, and the company can be
added to the tables. -/
structure Stores (desk : Desk) (name : String) : Prop where
  named : trim name ≠ ""
  working : desk.outages.lookup .createCompany = none
  added : ∃ store, desk.store.addCompany (drawn desk name) = .ok store

/-- The user is taken on as the administrator of a company under an address: one with an at
sign that nobody is registered under. -/
structure TakenOn (s : Store) (company : Uuid) (email : String) (user : User) : Prop where
  belongs : user.companyId = company
  administers : user.role = .admin
  written : user.email = email
  addressed : email.contains '@' = true
  free : ∀ row ∈ s.users, row.email ≠ email

/-- An administrator is added, or the tables are left alone. -/
theorem addAdmin_cases (company : Uuid) (email : String) (desk : Desk) :
    (∃ user left, (addAdmin company email).run desk = (.done user, left) ∧
      TakenOn desk.store company (trim email) user ∧ left.store = desk.store.withUser user) ∨
    ∃ left, left.store = desk.store ∧ (addAdmin company email).BreaksOff desk left := by
  unfold addAdmin
  dsimp only
  by_cases addressed : (trim email).contains '@' = true
  · rw [addressed, Bool.not_true, if_neg Bool.false_ne_true]
    have looks : (get company).Looks := .mapError _ (.read _ _)
    rcases looks.cases desk with ⟨known, found⟩ | breaks
    · cases known with
      | none => exact .inr ⟨desk, rfl, .after found ⟨rfl, rfl⟩⟩
      | some _ =>
          let user : User :=
            { id := desk.source.id desk.source.drawn, companyId := company, email := trim email
              role := .admin }
          let introduced : Desk :=
            { desk with source := { desk.source with drawn := desk.source.drawn + 1 } }
          rcases storing_cases .createUser (fun s => s.addUser user) user introduced with
            ⟨_, store, answer, done⟩ | ⟨_, breaks⟩
          · obtain ⟨_, free, _, same⟩ := Store.addUser_eq_ok_iff.mp answer
            have takenOn : TakenOn desk.store company (trim email) user :=
              ⟨rfl, rfl, rfl, addressed, fun row listed => (free row listed).2⟩
            refine .inl ⟨user, { introduced with store }, ?_, takenOn, same.symm⟩
            rw [run_bind, found]
            exact run_mapError_eq_done_iff.mpr done
          · exact .inr ⟨introduced, rfl, .after found (.after rfl (breaks.mapError _))⟩
    · exact .inr ⟨desk, rfl, breaks.bind _⟩
  · rw [Bool.not_eq_true] at addressed
    rw [addressed]
    exact .inr ⟨desk, rfl, rfl, rfl⟩

/-- How a creation ends, and the tables that it leaves. -/
inductive Creation (desk : Desk) (name : String) (adminEmail : Option String) :
    Outcome CompanyError (Company × Option User) → Store → Prop where
  | unstored {outcome : Outcome CompanyError (Company × Option User)}
      (unfinished : isDone outcome = false) (refused : ¬Stores desk name) :
      Creation desk name adminEmail outcome desk.store
  | leftBehind {outcome : Outcome CompanyError (Company × Option User)} {email : String}
      (unfinished : isDone outcome = false) (stores : Stores desk name)
      (wanted : address? adminEmail = some (trim email))
      (refused : ¬(addAdmin (drawn desk name).id email).Succeeds (founded desk name)) :
      Creation desk name adminEmail outcome (desk.store.withCompany (drawn desk name))
  | alone (stores : Stores desk name) (unwanted : address? adminEmail = none) :
      Creation desk name adminEmail (.done (drawn desk name, none))
        (desk.store.withCompany (drawn desk name))
  | administered {email : String} {user : User} (stores : Stores desk name)
      (wanted : address? adminEmail = some email)
      (takenOn : TakenOn desk.store (drawn desk name).id email user) :
      Creation desk name adminEmail (.done (drawn desk name, some user))
        ((desk.store.withCompany (drawn desk name)).withUser user)

section

variable {name : String} {adminEmail : Option String} {desk start middle left : Desk} {α : Type}

/-- How a job ends is decided by what comes after the part that is done. -/
theorem Creation.after {first : Job CompanyError α}
    {next : α → Job CompanyError (Company × Option User)} {value : α}
    (done : first.run start = (.done value, middle))
    (ends : Creation desk name adminEmail ((next value).run middle).1
      ((next value).run middle).2.store) :
    Creation desk name adminEmail ((first >>= next).run start).1
      ((first >>= next).run start).2.store := by
  rw [run_bind, done]
  exact ends

theorem Creation.of_breaksOff {job : Job CompanyError (Company × Option User)}
    (breaks : job.BreaksOff start left) (kept : left.store = desk.store)
    (refused : ¬Stores desk name) :
    Creation desk name adminEmail (job.run start).1 (job.run start).2.store := by
  rw [breaks.leaves, kept]
  exact .unstored breaks.unfinished refused

theorem Creation.of_breaksOff_adding {email : String} (stores : Stores desk name)
    (wanted : address? adminEmail = some (trim email))
    (breaks : (addAdmin (drawn desk name).id email).BreaksOff (founded desk name) left)
    (kept : left.store = (founded desk name).store) {next : User → Company × Option User} :
    Creation desk name adminEmail
      ((do return next (← addAdmin (drawn desk name).id email)).run (founded desk name)).1
      ((do return next (← addAdmin (drawn desk name).id email)).run
        (founded desk name)).2.store := by
  have refused : ¬(addAdmin (drawn desk name).id email).Succeeds (founded desk name) := by
    rw [succeeds_iff_isDone, breaks.unfinished]
    exact Bool.false_ne_true
  have breaks := breaks.bind fun admin => pure (next admin)
  rw [breaks.leaves, kept]
  exact .leftBehind breaks.unfinished stores wanted refused

end

/-- A creation ends in one of the ways above. -/
theorem create_ends (desk : Desk) (name : String) (adminEmail : Option String) :
    Creation desk name adminEmail ((create name adminEmail).run desk).1
      ((create name adminEmail).run desk).2.store := by
  unfold create
  dsimp only
  by_cases blank : trim name = ""
  · rw [if_pos (by simp [blank])]
    exact .unstored rfl fun stores => stores.named blank
  · rw [if_neg (by simp [blank])]
    rcases storing_cases .createCompany (fun s => s.addCompany (drawn desk name)) (drawn desk name)
      { desk with source := { desk.source with drawn := desk.source.drawn + 2 } } with
      ⟨working, store, answer, done⟩ | ⟨refused, breaks⟩
    · have stores : Stores desk name := ⟨blank, working, store, answer⟩
      obtain ⟨_, _, same⟩ := Store.addCompany_eq_ok_iff.mp answer
      subst store
      refine .after rfl (.after rfl (.after (run_mapError_eq_done_iff.mpr done) ?_))
      cases wanted : adminEmail.filter fun email => !isBlank email with
      | none => exact .alone stores (by rw [address?, wanted]; rfl)
      | some email =>
          have address : address? adminEmail = some (trim email) := by rw [address?, wanted]; rfl
          rcases addAdmin_cases (drawn desk name).id email (founded desk name) with
            ⟨user, left, admitted, takenOn, kept⟩ | ⟨left, kept, breaks⟩
          · refine .after admitted ?_
            rw [run_pure, kept]
            exact .administered stores address { takenOn with }
          · exact .of_breaksOff_adding stores address breaks kept
    · refine .of_breaksOff (.after rfl (.after rfl ((breaks.mapError _).bind _))) rfl
        fun stores => ?_
      obtain ⟨error, answer⟩ := refused stores.working
      obtain ⟨_, added⟩ := stores.added
      cases answer.symm.trans added

/-! ## What was created, and what stays behind -/

/-- What a creation answers agrees with what it does to the tables: one that ends well adds
the company under its trimmed name, and an administrator of it exactly when an address is
given.  One that does not end well leaves the tables alone, but for the company if that had
been stored. -/
structure Accounted (desk : Desk) (name : String) (adminEmail : Option String)
    (outcome : Outcome CompanyError (Company × Option User)) (after : Store) : Prop where
  named : ∀ company admin, outcome = .done (company, admin) → company.name = trim name
  alone : ∀ company, outcome = .done (company, none) →
    address? adminEmail = none ∧ after = desk.store.withCompany company
  administered : ∀ company user, outcome = .done (company, some user) →
    ∃ email, address? adminEmail = some email ∧ TakenOn desk.store company.id email user ∧
      after = (desk.store.withCompany company).withUser user
  unchanged_iff : isDone outcome = false → (after = desk.store ↔ ¬Stores desk name)
  leftBehind : isDone outcome = false → Stores desk name →
    address? adminEmail ≠ none ∧ after = desk.store.withCompany (drawn desk name)

theorem Creation.accounted {desk : Desk} {name : String} {adminEmail : Option String}
    {outcome : Outcome CompanyError (Company × Option User)} {after : Store}
    (creation : Creation desk name adminEmail outcome after) :
    Accounted desk name adminEmail outcome after := by
  have unfinished_ne : isDone outcome = false → ∀ value, outcome ≠ .done value := by
    rintro unfinished value rfl
    cases unfinished
  cases creation with
  | unstored unfinished refused =>
      exact {
        named := fun _ _ done => absurd done (unfinished_ne unfinished _)
        alone := fun _ done => absurd done (unfinished_ne unfinished _)
        administered := fun _ _ done => absurd done (unfinished_ne unfinished _)
        unchanged_iff := fun _ => iff_of_true rfl refused
        leftBehind := fun _ stores => absurd stores refused }
  | leftBehind unfinished stores wanted _ =>
      exact {
        named := fun _ _ done => absurd done (unfinished_ne unfinished _)
        alone := fun _ done => absurd done (unfinished_ne unfinished _)
        administered := fun _ _ done => absurd done (unfinished_ne unfinished _)
        unchanged_iff := fun _ =>
          iff_of_false (Store.withCompany_ne _ _) fun refused => refused stores
        leftBehind := fun _ _ => ⟨by simp [wanted], rfl⟩ }
  | alone stores unwanted =>
      exact {
        named := by rintro _ _ ⟨⟩; rfl
        alone := by rintro _ ⟨⟩; exact ⟨unwanted, rfl⟩
        administered := by rintro _ _ done; cases done
        unchanged_iff := by rintro ⟨⟩
        leftBehind := by rintro ⟨⟩ }
  | administered stores wanted takenOn =>
      exact {
        named := by rintro _ _ ⟨⟩; rfl
        alone := by rintro _ done; cases done
        administered := by rintro _ _ ⟨⟩; exact ⟨_, wanted, takenOn, rfl⟩
        unchanged_iff := by rintro ⟨⟩
        leftBehind := by rintro ⟨⟩ }

/-- Whatever the desk is like, what a creation answers agrees with what it leaves. -/
theorem create_accounted (desk : Desk) (name : String) (adminEmail : Option String) :
    Accounted desk name adminEmail ((create name adminEmail).run desk).1
      ((create name adminEmail).run desk).2.store :=
  (create_ends desk name adminEmail).accounted

/-! ## When a creation ends well -/

theorem addAdmin_succeeds {desk : Desk} {company : Uuid} {email : String} {known : Company}
    (working : desk.outages = []) (intact : desk.store.Intact)
    (found : desk.store.findCompany company = .ok (some known))
    (registered : desk.store.Registers company.text)
    (addressed : (trim email).contains '@' = true)
    (free : ∀ row ∈ desk.store.users,
      row.id ≠ (desk.source.id desk.source.drawn).text ∧ row.email ≠ trim email) :
    (addAdmin company email).Succeeds desk := by
  have looksUp : (get company).run desk = (.done (some known), desk) := by
    apply run_mapError_eq_done_iff.mpr
    rw [Desk.findCompany, run_through (by simp [working]), run_read, found]
  have admits : desk.store.addUser
      { id := desk.source.id desk.source.drawn, companyId := company, email := trim email
        role := .admin } = .ok _ :=
    Store.addUser_eq_ok_iff.mpr ⟨intact.require _, free, registered, rfl⟩
  rw [succeeds_iff_isDone, addAdmin, addressed, Bool.not_true, if_neg Bool.false_ne_true,
    run_bind, looksUp]
  dsimp only
  rw [run_bind, run_freshId]
  dsimp only
  rw [Desk.createUser, run_mapError, run_through (by simp [working]), run_bind, run_write, admits]
  rfl

/-- At a desk in order a creation ends well exactly when it is asked for a name, and for an
administrator under an address with an at sign that nobody is registered under, or for none. -/
theorem create_succeeds_iff {desk : Desk} {name : String} {adminEmail : Option String}
    (working : desk.outages = []) (intact : desk.store.Intact)
    (legible : (drawn desk name).createdAt.Legible)
    (newCompany : ∀ row ∈ desk.store.companies, row.id ≠ (drawn desk name).id.text)
    (newUser : ∀ row ∈ desk.store.users, row.id ≠ (desk.source.id (desk.source.drawn + 2)).text) :
    (create name adminEmail).Succeeds desk ↔
      trim name ≠ "" ∧ ∀ email ∈ address? adminEmail,
        email.contains '@' = true ∧ ∀ row ∈ desk.store.users, row.email ≠ email := by
  have stores_iff : Stores desk name ↔ trim name ≠ "" := by
    have added := Store.addCompany_eq_ok_iff.mpr ⟨intact.require _, newCompany, rfl⟩
    exact ⟨Stores.named, fun named => ⟨named, by simp [working], _, added⟩⟩
  have admits {email : String} (addressed : (trim email).contains '@' = true)
      (free : ∀ row ∈ desk.store.users, row.email ≠ trim email) :
      (addAdmin (drawn desk name).id email).Succeeds (founded desk name) := by
    apply addAdmin_succeeds
    case working => exact working
    case intact => exact intact
    case found => exact Store.findCompany_withCompany intact legible newCompany
    case registered => exact ⟨_, List.mem_append_right _ List.mem_cons_self, rfl⟩
    case addressed => exact addressed
    case free => exact fun row listed => ⟨newUser row listed, free row listed⟩
  have ends := create_ends desk name adminEmail
  rw [succeeds_iff_isDone]
  generalize ((create name adminEmail).run desk).1 = outcome at ends ⊢
  generalize ((create name adminEmail).run desk).2.store = after at ends
  constructor
  · intro finished
    cases ends with
    | unstored unfinished => cases unfinished.symm.trans finished
    | leftBehind unfinished => cases unfinished.symm.trans finished
    | alone stores unwanted => exact ⟨stores.named, by simp [unwanted]⟩
    | administered stores wanted takenOn =>
        refine ⟨stores.named, fun email given => ?_⟩
        cases wanted.symm.trans given
        exact ⟨takenOn.addressed, takenOn.free⟩
  · rintro ⟨named, acceptable⟩
    cases ends with
    | unstored _ refused => exact absurd (stores_iff.mpr named) refused
    | alone => rfl
    | administered => rfl
    | leftBehind _ _ wanted refused =>
        exfalso
        obtain ⟨addressed, free⟩ := acceptable _ wanted
        exact refused (admits addressed free)

/-- A desk of the year 2026 with nothing in its store. -/
def firstDay : Desk :=
  Desk.blank (Desk.newYear 2026 Desk.isDate_newYear2026)

/-- An address without an at sign is found out too late: the creation is refused, and the
company stays behind. -/
theorem create_not_atomic : ¬∀ (desk : Desk) (name : String) (adminEmail : Option String),
    isDone ((create name adminEmail).run desk).1 = false →
      ((create name adminEmail).run desk).2.store.companies = desk.store.companies ∧
        ((create name adminEmail).run desk).2.store.users = desk.store.users := by
  intro atomic
  have stores : Stores firstDay "Acme" := ⟨by decide, rfl, _, rfl⟩
  have wanted : address? (some "nobody") = some "nobody" := by decide
  have refused : ¬(create "Acme" (some "nobody")).Succeeds firstDay := by
    have succeeds_iff := @create_succeeds_iff firstDay "Acme" (some "nobody") rfl rfl (by decide)
      (by rintro _ ⟨⟩) (by rintro _ ⟨⟩)
    rw [succeeds_iff]
    rintro ⟨_, acceptable⟩
    exact absurd (acceptable _ wanted).1 (by simp)
  rw [succeeds_iff_isDone, Bool.not_eq_true] at refused
  obtain ⟨_, leaves⟩ :=
    (create_ends firstDay "Acme" (some "nobody")).accounted.leftBehind refused stores
  obtain ⟨unchanged, _⟩ := atomic firstDay "Acme" (some "nobody") refused
  rw [leaves] at unchanged
  cases unchanged

end Companies

end Caretaker
