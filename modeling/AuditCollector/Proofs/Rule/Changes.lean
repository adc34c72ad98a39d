import AuditCollector.Proofs.Rule.Tables
import Mathlib.Algebra.Group.Nat.Defs

namespace AuditCollector.Rule

-- What can be asked of a rule once it is there.
inductive Change where
  | permit (bits : UInt32)
  | add (field : Field) (operator : Operator) (value : String)
deriving DecidableEq, Repr

namespace Change

def permissions? : Change → Option UInt32
  | .permit bits => some bits
  | .add .. => none

def isAddition : Change → Bool
  | .permit _ => false
  | .add .. => true

-- The predicate that is to be added, if its value stands for a number.
def predicate? (accounts : Accounts) : Change → Option Predicate
  | .permit _ => none
  | .add field operator value =>
    (resolve accounts field value).toOption.map fun number => { field, operator, value := number }

end Change

def change (accounts : Accounts) (rule : Rule) : Change → Except RuleError Rule
  | .permit bits => rule.setPermissions bits
  | .add field operator value => rule.addField accounts field operator value

-- The answer to a change, and the rule that is there afterwards. There is a new one only if
-- nothing failed.
def perform (accounts : Accounts) (rule : Rule) (change : Change) : Except RuleError Unit × Rule :=
  match rule.change accounts change with
  | .ok rule => (.ok (), rule)
  | .error error => (.error error, rule)

-- Asks for one change after the other, whatever came of the earlier ones.
def performAll (accounts : Accounts) (rule : Rule) :
    List Change → List (Except RuleError Unit) × Rule
  | [] => ([], rule)
  | change :: changes =>
    let (result, rule) := rule.perform accounts change
    let (results, rule) := rule.performAll accounts changes
    (result :: results, rule)

-- The additions that succeeded, among the changes that were asked for.
def accepted (changes : List Change) (results : List (Except RuleError Unit)) : List Change :=
  ((changes.zip results).filter fun (change, result) => change.isAddition && result.isOk).map (·.1)

-- The kinds of access that were asked for last.
def lastPermissions (start : UInt32) (changes : List Change) : UInt32 :=
  (changes.filterMap Change.permissions?).getLast?.getD start

-- The rule watches the path, reports these kinds of access, and has these predicates beyond
-- that. It has room for no more than it lists.
structure Lists (rule : Rule) (path : Bytes) (permissions : UInt32) (added : List Predicate) :
    Prop where
  eq : rule = ofPredicates path (watchedPath path :: access permissions :: added)
  room : added.length + 2 ≤ maxFields

variable {accounts : Accounts} {path : Bytes} {rule rule' : Rule} {permissions : UInt32}
  {added : List Predicate}

theorem lists_directoryWatch (path : Bytes) :
    (directoryWatch path).Lists path Permission.allBits [] :=
  ⟨directoryWatch_eq_ofPredicates path, by decide⟩

-- Whether there is room is asked before anything else, and no value is refused for want of it.
theorem resolve_ne_tooManyFields (accounts : Accounts) (field : Field) (value : String) :
    resolve accounts field value ≠ .error .tooManyFields := by
  unfold resolve
  grind

theorem addField_of_full (hfull : rule.count = maxFields) (field : Field) (operator : Operator)
    (value : String) :
    rule.addField accounts field operator value = .error .tooManyFields := by
  have hroom : rule.ensureRoom = .error .tooManyFields := if_pos (Nat.le_of_eq hfull.symm)
  rw [addField, hroom]
  rfl

theorem perform_of_error {error : RuleError} {change : Change}
    (h : (rule.perform accounts change).1 = .error error) :
    (rule.perform accounts change).2 = rule := by
  unfold perform at h ⊢
  cases hchange : rule.change accounts change with
  | error error => rfl
  | ok next =>
    rw [hchange] at h
    cases h

namespace Lists

theorem count_eq (h : rule.Lists path permissions added) : rule.count = added.length + 2 := by
  rw [h.eq]
  rfl

theorem count_lt (h : rule.Lists path permissions added) : rule.count < 2 ^ 32 := by
  have hroom : added.length + 2 ≤ 64 := h.room
  rw [h.count_eq]
  omega

-- No slot in use is passed over.
theorem map_predicateAt? (h : rule.Lists path permissions added) :
    (List.range rule.count).map rule.predicateAt? = rule.predicates.map some := by
  have hlength : (watchedPath path :: access permissions :: added).length ≤ maxFields := h.room
  rw [h.eq, predicates_ofPredicates hlength]
  exact map_predicateAt?_ofPredicates hlength

theorem predicates_eq (h : rule.Lists path permissions added) :
    rule.predicates = watchedPath path :: access permissions :: added := by
  rw [h.eq]
  exact predicates_ofPredicates h.room

theorem addField_of_room (h : rule.Lists path permissions added) (hroom : rule.count ≠ maxFields)
    (field : Field) (operator : Operator) (value : String) :
    rule.addField accounts field operator value = (resolve accounts field value).map fun number =>
      ofPredicates path
        (watchedPath path :: access permissions :: (added ++ [{ field, operator, value := number }])) := by
  have hcount := h.count_eq
  have hle := h.room
  have hlt : (watchedPath path :: access permissions :: added).length < maxFields := by
    simp only [List.length_cons]
    omega
  rw [h.eq, addField_ofPredicates hlt]
  rfl

theorem addField_eq_tooManyFields_iff (h : rule.Lists path permissions added) (field : Field)
    (operator : Operator) (value : String) :
    rule.addField accounts field operator value = .error .tooManyFields ↔ rule.count = maxFields := by
  refine ⟨?_, fun hfull => addField_of_full hfull field operator value⟩
  intro herror
  by_cases hfull : rule.count = maxFields
  · exact hfull
  rw [h.addField_of_room hfull] at herror
  cases hresolve : resolve accounts field value with
  | error error =>
    rw [hresolve] at herror
    cases herror
    exact absurd hresolve (resolve_ne_tooManyFields accounts field value)
  | ok number =>
    rw [hresolve] at herror
    cases herror

-- The kinds of access have a slot from the start, so that they can always be replaced.
theorem perform_permit (h : rule.Lists path permissions added) (accounts : Accounts)
    (bits : UInt32) :
    ∃ rule', rule.perform accounts (.permit bits) = (.ok (), rule') ∧
      rule'.Lists path bits added := by
  have hset : rule.setPermissions bits =
      .ok (ofPredicates path (watchedPath path :: access bits :: added)) := by
    rw [h.eq]
    exact setPermissions_ofPredicates permissions bits h.room
  refine ⟨_, ?_, rfl, h.room⟩
  rw [perform, change, hset]

-- A predicate is listed behind the others, or it is refused and the rule stays as it is.
theorem perform_add (h : rule.Lists path permissions added) (accounts : Accounts) (field : Field)
    (operator : Operator) (value : String) :
    (∃ error, rule.perform accounts (.add field operator value) = (.error error, rule)) ∨
      ∃ rule' predicate, rule.perform accounts (.add field operator value) = (.ok (), rule') ∧
        rule'.Lists path permissions (added ++ [predicate]) ∧
        (Change.add field operator value).predicate? accounts = some predicate := by
  have hadd : rule.perform accounts (.add field operator value) =
      match rule.addField accounts field operator value with
      | .ok rule => (.ok (), rule)
      | .error error => (.error error, rule) := rfl
  by_cases hfull : rule.count = maxFields
  · rw [addField_of_full hfull] at hadd
    exact .inl ⟨_, hadd⟩
  · rw [h.addField_of_room hfull] at hadd
    cases hresolve : resolve accounts field value with
    | error error =>
      rw [hresolve] at hadd
      exact .inl ⟨_, hadd⟩
    | ok number =>
      rw [hresolve] at hadd
      refine .inr ⟨_, { field, operator, value := number }, hadd, ⟨rfl, ?_⟩, ?_⟩
      · have hcount := h.count_eq
        have hle := h.room
        simp only [List.length_append, List.length_cons, List.length_nil]
        omega
      · rw [Change.predicate?, hresolve]
        rfl

-- By induction on the changes: each of them replaces the kinds of access, or adds its
-- predicate behind those that are there, or does nothing.
theorem performAll {changes : List Change} {results : List (Except RuleError Unit)}
    (h : rule.Lists path permissions added)
    (hrun : rule.performAll accounts changes = (results, rule')) :
    results.length = changes.length ∧ ∃ more,
      rule'.Lists path (lastPermissions permissions changes) (added ++ more) ∧
      more.map some = (accepted changes results).map (·.predicate? accounts) := by
  induction changes generalizing rule permissions added results with
  | nil =>
    cases hrun
    exact ⟨rfl, [], by rwa [List.append_nil], rfl⟩
  | cons change changes ih =>
    obtain ⟨results', hrest⟩ : ∃ results', (rule.perform accounts change).2.performAll accounts changes =
        (results', rule') ∧ results = (rule.perform accounts change).1 :: results' := by
      cases hrun
      exact ⟨_, rfl, rfl⟩
    obtain ⟨hrest, rfl⟩ := hrest
    cases change with
    | permit bits =>
      obtain ⟨next, hperform, hnext⟩ := h.perform_permit accounts bits
      rw [hperform] at hrest ⊢
      obtain ⟨hlength, more, hlists, hmore⟩ := ih hnext hrest
      refine ⟨by simp [hlength], more, ?_, hmore⟩
      have hlast : lastPermissions permissions (.permit bits :: changes) =
          lastPermissions bits changes := by
        simp [lastPermissions, Change.permissions?, List.getLast?_cons]
      rwa [hlast]
    | add field operator value =>
      have hlast : lastPermissions permissions (.add field operator value :: changes) =
          lastPermissions permissions changes := rfl
      rw [hlast]
      rcases h.perform_add accounts field operator value with
        ⟨error, hperform⟩ | ⟨next, predicate, hperform, hnext, hpredicate⟩
      · rw [hperform] at hrest ⊢
        obtain ⟨hlength, more, hlists, hmore⟩ := ih h hrest
        exact ⟨by simp [hlength], more, hlists, hmore⟩
      · rw [hperform] at hrest ⊢
        obtain ⟨hlength, more, hlists, hmore⟩ := ih hnext hrest
        refine ⟨by simp [hlength], predicate :: more, ?_, ?_⟩
        · rwa [List.append_assoc] at hlists
        · rw [List.map_cons, hmore, ← hpredicate]
          rfl

-- What no slot is used for is zero, and nothing but the predicates varies from rule to rule.
theorem slot_eq_zero (h : rule.Lists path permissions added) {slot : Nat} (hslot : slot < maxFields)
    (hunused : rule.count ≤ slot) :
    rule.fields[slot] = 0 ∧ rule.values[slot] = 0 ∧ rule.fieldFlags[slot] = 0 := by
  have hzero : ∀ f : Predicate → UInt32,
      (table ((watchedPath path :: access permissions :: added).map f))[slot] = 0 := by
    intro f
    have hlength : ((watchedPath path :: access permissions :: added).map f).length ≤ slot := by
      rw [h.count_eq] at hunused
      rwa [List.length_map]
    rw [getElem_table _ hslot, List.getD_eq_getElem?_getD, List.getElem?_eq_none hlength,
      Option.getD_none]
  rw [h.eq]
  exact ⟨hzero (·.field.id), hzero (·.value), hzero (·.operator.bits)⟩

theorem mask_eq (h : rule.Lists path permissions added) {word : Nat} (hword : word < maskWords) :
    rule.mask[word] = if word < 2 then 0xFFFFFFFF else 0 := by
  rw [h.eq]
  simp only [ofPredicates, watchMask, Vector.getElem_ofFn]

end Lists

-- However a rule is changed, it is the list of its predicates: the path, the kinds of access
-- asked for last, and what was added, in that order. What fails changes nothing, and only
-- additions fail. All that is not listed is zero.
theorem performAll_directoryWatch (hpath : path.length < 2 ^ 32) {changes : List Change}
    {results : List (Except RuleError Unit)}
    (hrun : (directoryWatch path).performAll accounts changes = (results, rule)) :
    results.length = changes.length ∧
      (∃ length : UInt32, length.toNat = path.length ∧
        rule.predicates.map some =
          some ⟨.dir, .equal, length⟩ ::
          some ⟨.perm, .equal, lastPermissions 0xF changes⟩ ::
          (accepted changes results).map (·.predicate? accounts)) ∧
      rule.count = rule.predicates.length ∧ 2 ≤ rule.count ∧ rule.count ≤ 64 ∧
      rule.path = path ∧
      (∀ change error, (rule.perform accounts change).1 = .error error →
        (rule.perform accounts change).2 = rule) ∧
      (∀ bits, (rule.perform accounts (.permit bits)).1 = .ok ()) ∧
      (∀ field operator value,
        rule.addField accounts field operator value = .error .tooManyFields ↔ rule.count = 64) ∧
      (∀ slot (hslot : slot < 64), rule.count ≤ slot →
        rule.fields[slot] = 0 ∧ rule.values[slot] = 0 ∧ rule.fieldFlags[slot] = 0) ∧
      (∀ word (hword : word < 64), rule.mask[word] = if word < 2 then 0xFFFFFFFF else 0) ∧
      rule.flags = 4 ∧ rule.action = 2 := by
  obtain ⟨hlength, more, hlists, hmore⟩ := (lists_directoryWatch path).performAll hrun
  rw [List.nil_append] at hlists
  have hcount := hlists.count_eq
  have hroom : more.length + 2 ≤ 64 := hlists.room
  refine ⟨hlength, ⟨UInt32.ofNat path.length, ?_, ?_⟩, ?_, ?_, ?_, ?_, ?_, ?_, ?_, ?_, ?_, ?_, ?_⟩
  · rw [UInt32.toNat_ofNat', Nat.mod_eq_of_lt hpath]
  · rw [hlists.predicates_eq, List.map_cons, List.map_cons, hmore]
    rfl
  · rw [hlists.predicates_eq, hcount]
    rfl
  · omega
  · omega
  · rw [hlists.eq]
    rfl
  · intro change error herror
    exact perform_of_error herror
  · intro bits
    obtain ⟨next, hperform, -⟩ := hlists.perform_permit accounts bits
    rw [hperform]
  · intro field operator value
    exact hlists.addField_eq_tooManyFields_iff field operator value
  · intro slot hslot hunused
    exact hlists.slot_eq_zero hslot hunused
  · intro word hword
    exact hlists.mask_eq hword
  · rw [hlists.eq]
    rfl
  · rw [hlists.eq]
    rfl

-- A user by name, then the kinds of access, a group by number, and two that are refused in
-- between.
theorem performAll_directoryWatch_between_refusals :
    let path : Bytes := [47, 100]
    let changes : List Change :=
      [.add .uid .equal "root", .add .arch .equal "1", .permit 2, .add .success .ge "2",
        .add .gid .ge "0x10"]
    path.length < 2 ^ 32 ∧ ∃ results rule,
      (directoryWatch path).performAll Accounts.standard changes = (results, rule) ∧
      results = [.ok (), .error (.unsupportedField .arch), .ok (),
        .error (.invalidValue .success "2"), .ok ()] ∧
      rule.predicates = [⟨.dir, .equal, 2⟩, ⟨.perm, .equal, 2⟩, ⟨.uid, .equal, 0⟩, ⟨.gid, .ge, 16⟩] ∧
      rule.count = rule.predicates.length ∧
      (rule.addField Accounts.standard .pers .equal "" = .error .tooManyFields ↔ rule.count = 64) := by
  intro path changes
  have hpath : path.length < 2 ^ 32 := by decide
  rcases hrun : (directoryWatch path).performAll Accounts.standard changes with ⟨results, rule⟩
  have h := performAll_directoryWatch hpath hrun
  have hresults : ((directoryWatch path).performAll Accounts.standard changes).1 =
      [.ok (), .error (.unsupportedField .arch), .ok (), .error (.invalidValue .success "2"),
        .ok ()] := rfl
  have hpredicates : ((directoryWatch path).performAll Accounts.standard changes).2.predicates =
      [⟨.dir, .equal, 2⟩, ⟨.perm, .equal, 2⟩, ⟨.uid, .equal, 0⟩, ⟨.gid, .ge, 16⟩] := by
    decide +kernel
  rw [hrun] at hresults hpredicates
  obtain ⟨-, -, hcount, -, -, -, -, -, hfull, -⟩ := h
  exact ⟨hpath, results, rule, rfl, hresults, hpredicates, hcount, hfull .pers .equal ""⟩

end AuditCollector.Rule
