import AuditCollector.Config.Basic
import AuditCollector.Proofs.Rule.Changes
import AuditCollector.Proofs.Rule.Numerals
import Mathlib.Data.List.Fold
import Mathlib.Data.List.Forall2

namespace AuditCollector

open Rule

namespace Rule

namespace Permission

variable {listed listed' : List Permission}

-- The bits of the kinds for which `chosen` is true.
def bitsOf (chosen : Permission → Bool) : UInt32 :=
  [exec, write, read, attr].foldr (fun kind bits => (bif chosen kind then kind.bit else 0) ||| bits) 0

-- The bits are or-ed to those of the list so far, where they may be already. The same is true of
-- the choice that the list stands for, so that only its members count.
theorem mask_eq_bitsOf (listed : List Permission) : mask listed = bitsOf fun kind => kind ∈ listed := by
  induction listed using List.reverseRecOn with
  | nil => rfl
  | append_singleton listed last ih =>
    have hstep : ∀ has : Permission → Bool,
        bitsOf (fun kind => has kind || decide (kind = last)) = bitsOf has ||| last.bit := by
      intro has
      simp only [bitsOf, List.foldr_cons, List.foldr_nil]
      generalize has exec = x, has write = w, has read = r, has attr = a
      revert x w r a
      cases last <;> decide
    have happend : mask (listed ++ [last]) = mask listed ||| last.bit := by
      rw [mask, List.foldl_append]
      rfl
    rw [happend, ih, ← hstep]
    congr 1
    funext kind
    simp

theorem mask_eq_foldr (listed : List Permission) :
    mask listed = (listed.map bit).foldr (· ||| ·) 0 := by
  rw [← List.foldl_eq_foldr, List.foldl_map]
  rfl

theorem mask_congr (h : ∀ kind, kind ∈ listed ↔ kind ∈ listed') : mask listed = mask listed' := by
  simp only [mask_eq_bitsOf, h]

end Permission

section Values

variable {accounts : Accounts} {field : Field} {value : String} {number : UInt32}

-- What a value of a field means. Accounts are given by number or by name, and how the value begins
-- tells which. Fields that are not listed take no value.
inductive Stands (accounts : Accounts) : Field → String → UInt32 → Prop where
  | number {field : Field} {value : String} {number : UInt32} (hfield : field.isUser ∨ field.isGroup)
      (h : Numeral.Denotes value.toList number.toNat) : Stands accounts field value number
  | user {field : Field} {name : String} {number : UInt32} (hfield : field.isUser)
      (hname : ¬name.toList.head?.any Char.isDigit) (h : accounts.userId? name = some number) :
      Stands accounts field name number
  | group {field : Field} {name : String} {number : UInt32} (hfield : field.isGroup)
      (hname : ¬name.toList.head?.any Char.isDigit) (h : accounts.groupId? name = some number) :
      Stands accounts field name number
  | failed : Stands accounts .success "0" 0
  | succeeded : Stands accounts .success "1" 1

-- What is told about a value that means nothing.
def complaint (field : Field) (value : String) : RuleError :=
  if field.isUser ∨ field.isGroup then
    if value.toList.head?.any Char.isDigit then .invalidValue field value
    else .unknownPrincipal (if field.isUser then .user else .group) value
  else if field = .success then .invalidValue field value
  else .unsupportedField field

theorem not_isUser_of_isGroup (h : field.isGroup) : ¬field.isUser := by
  cases field <;> simp_all [Field.isUser, Field.isGroup]

theorem resolve_of_stands (h : Stands accounts field value number) :
    resolve accounts field value = .ok number := by
  cases h with
  | number hfield h =>
    rw [resolve_of_digit hfield h.head?_isDigit, Numeral.parse?_eq_some_iff.mpr h]
  | user hfield hname h => simp [resolve, hfield, hname, h]
  | group hfield hname h => simp [resolve, hfield, not_isUser_of_isGroup hfield, hname, h]
  | failed => rfl
  | succeeded => rfl

theorem resolve_cases (accounts : Accounts) (field : Field) (value : String) :
    (∃ number, Stands accounts field value number) ∨
      resolve accounts field value = .error (complaint field value) := by
  by_cases haccount : field.isUser ∨ field.isGroup
  · by_cases hdigit : value.toList.head?.any Char.isDigit
    · rw [resolve_of_digit haccount hdigit]
      cases hparse : Numeral.parse? value.toList with
      | some number => exact .inl ⟨number, .number haccount (Numeral.parse?_eq_some_iff.mp hparse)⟩
      | none => exact .inr (by rw [complaint, if_pos haccount, if_pos hdigit])
    · by_cases huser : field.isUser
      · cases hname : accounts.userId? value with
        | some number => exact .inl ⟨number, .user huser hdigit hname⟩
        | none => exact .inr (by simp [resolve, complaint, huser, hdigit, hname])
      · have hgroup : field.isGroup := haccount.resolve_left huser
        cases hname : accounts.groupId? value with
        | some number => exact .inl ⟨number, .group hgroup hdigit hname⟩
        | none => exact .inr (by simp [resolve, complaint, huser, hgroup, hdigit, hname])
  · obtain ⟨huser, hgroup⟩ := not_or.mp haccount
    by_cases hsuccess : field = .success
    · subst hsuccess
      by_cases hzero : value = "0"
      · exact .inl ⟨0, hzero ▸ .failed⟩
      · by_cases hone : value = "1"
        · exact .inl ⟨1, hone ▸ .succeeded⟩
        · exact .inr (by simp [resolve, complaint, huser, hgroup, hzero, hone])
    · exact .inr (by simp [resolve, complaint, huser, hgroup, hsuccess])

theorem resolve_of_not_stands (h : ¬∃ number, Stands accounts field value number) :
    resolve accounts field value = .error (complaint field value) :=
  (resolve_cases accounts field value).resolve_left h

end Values

end Rule

namespace FieldConfig

-- The entry's value means something for its field.
def Resolves (accounts : Accounts) (entry : FieldConfig) : Prop :=
  ∃ number, Stands accounts entry.field entry.value number

-- The predicate is what the entry says.
def Says (accounts : Accounts) (entry : FieldConfig) (predicate : Predicate) : Prop :=
  predicate.field = entry.field ∧ predicate.operator = entry.operator ∧
    Stands accounts entry.field entry.value predicate.value

-- The error of an entry that comes with `earlier` others before it, if it has one. A rule that is full
-- takes no entry whatever is in it.
def Fails (accounts : Accounts) (earlier : Nat) (entry : FieldConfig) (error : RuleError) : Prop :=
  (earlier = 62 ∧ error = .tooManyFields) ∨
    earlier < 62 ∧ ¬entry.Resolves accounts ∧ error = complaint entry.field entry.value

def addTo (accounts : Accounts) (rule : Rule) (entry : FieldConfig) : Except RuleError Rule :=
  rule.addField accounts entry.field entry.operator entry.value

end FieldConfig

section Entries

variable {accounts : Accounts} {rule : Rule} {path : Bytes} {permissions : UInt32}
  {added : List Predicate} {entries before after : List FieldConfig} {entry : FieldConfig}
  {error : RuleError}

-- Two of the slots are taken from the start.
theorem count_ne_maxFields (h : rule.Lists path permissions added) (hroom : added.length < 62) :
    rule.count ≠ maxFields := by
  rw [h.count_eq]
  change added.length + 2 ≠ 64
  omega

theorem addTo_of_resolves (h : rule.Lists path permissions added) (hroom : added.length < 62)
    (hentry : entry.Resolves accounts) :
    ∃ rule' predicate, entry.addTo accounts rule = .ok rule' ∧
      rule'.Lists path permissions (added ++ [predicate]) ∧ entry.Says accounts predicate := by
  obtain ⟨number, hnumber⟩ := hentry
  have hadd : entry.addTo accounts rule = _ :=
    h.addField_of_room (count_ne_maxFields h hroom) entry.field entry.operator entry.value
  rw [resolve_of_stands hnumber] at hadd
  refine ⟨_, ⟨entry.field, entry.operator, number⟩, hadd, ⟨rfl, ?_⟩, rfl, rfl, hnumber⟩
  rw [List.length_append, List.length_singleton]
  change added.length + 1 + 2 ≤ 64
  omega

theorem addTo_of_fails (h : rule.Lists path permissions added)
    (hentry : entry.Fails accounts added.length error) : entry.addTo accounts rule = .error error := by
  rcases hentry with ⟨hfull, rfl⟩ | ⟨hroom, hnone, rfl⟩
  · have hcount : rule.count = maxFields := by
      rw [h.count_eq, hfull]
      rfl
    exact addField_of_full hcount entry.field entry.operator entry.value
  · rw [FieldConfig.addTo, h.addField_of_room (count_ne_maxFields h hroom), resolve_of_not_stands hnone]
    rfl

-- By induction on the entries: each of them is listed behind those before it.
theorem foldlM_of_resolves (h : rule.Lists path permissions added)
    (hroom : added.length + entries.length ≤ 62) (hall : ∀ entry ∈ entries, entry.Resolves accounts) :
    ∃ rule' more, entries.foldlM (FieldConfig.addTo accounts) rule = .ok rule' ∧
      rule'.Lists path permissions (added ++ more) ∧
      List.Forall₂ (FieldConfig.Says accounts) entries more := by
  induction entries generalizing rule added with
  | nil => exact ⟨rule, [], rfl, by rwa [List.append_nil], .nil⟩
  | cons entry entries ih =>
    rw [List.length_cons] at hroom
    obtain ⟨next, predicate, hadd, hnext, hsays⟩ :=
      addTo_of_resolves h (by omega) (hall entry List.mem_cons_self)
    have hlength : (added ++ [predicate]).length + entries.length ≤ 62 := by
      rw [List.length_append, List.length_singleton]
      omega
    obtain ⟨rule', more, hfold, hlists, hmore⟩ :=
      ih hnext hlength fun entry hentry => hall entry (List.mem_cons_of_mem _ hentry)
    refine ⟨rule', predicate :: more, ?_, ?_, .cons hsays hmore⟩
    · rw [List.foldlM_cons, hadd]
      exact hfold
    · rwa [List.append_assoc] at hlists

-- Nothing is looked at behind the first entry that fails.
theorem foldlM_of_fails (h : rule.Lists path permissions added)
    (hroom : added.length + before.length ≤ 62) (hbefore : ∀ entry ∈ before, entry.Resolves accounts)
    (hentry : entry.Fails accounts (added.length + before.length) error) (after : List FieldConfig) :
    (before ++ entry :: after).foldlM (FieldConfig.addTo accounts) rule = .error error := by
  obtain ⟨full, more, hfold, hlists, hmore⟩ := foldlM_of_resolves h hroom hbefore
  rw [hmore.length_eq, ← List.length_append] at hentry
  rw [List.foldlM_append, hfold]
  change (entry :: after).foldlM (FieldConfig.addTo accounts) full = _
  rw [List.foldlM_cons, addTo_of_fails hlists hentry]
  rfl

-- The first entry that fails, among those that do not all fit and mean something.
theorem exists_first_failure (accounts : Accounts) (earlier : Nat) (hearlier : earlier ≤ 62)
    (h : ¬(earlier + entries.length ≤ 62 ∧ ∀ entry ∈ entries, entry.Resolves accounts)) :
    ∃ before entry after error, entries = before ++ entry :: after ∧
      earlier + before.length ≤ 62 ∧ (∀ entry ∈ before, entry.Resolves accounts) ∧
      entry.Fails accounts (earlier + before.length) error := by
  induction entries generalizing earlier with
  | nil => exact absurd ⟨hearlier, by simp⟩ h
  | cons entry entries ih =>
    by_cases hfull : earlier = 62
    · exact ⟨[], entry, entries, _, rfl, hearlier, by simp, .inl ⟨hfull, rfl⟩⟩
    have hroom : earlier < 62 := by omega
    by_cases hentry : entry.Resolves accounts
    · have hrest : ¬(earlier + 1 + entries.length ≤ 62 ∧
          ∀ entry ∈ entries, entry.Resolves accounts) := by
        rintro ⟨hlength, hall⟩
        exact h ⟨by rw [List.length_cons]; omega, List.forall_mem_cons.mpr ⟨hentry, hall⟩⟩
      obtain ⟨before, failing, after, error, rfl, hlength, hbefore, hfailing⟩ :=
        ih (earlier + 1) hroom hrest
      have hcount : earlier + (entry :: before).length = earlier + 1 + before.length := by
        rw [List.length_cons]
        omega
      rw [← hcount] at hlength hfailing
      exact ⟨entry :: before, failing, after, error, rfl, hlength,
        List.forall_mem_cons.mpr ⟨hentry, hbefore⟩, hfailing⟩
    · exact ⟨[], entry, entries, _, rfl, hearlier, by simp, .inr ⟨hroom, hentry, rfl⟩⟩

end Entries

namespace WatchConfig

variable {accounts : Accounts} {watch : WatchConfig}

-- The kinds of access that the rule of a watch reports.
def accessBits (watch : WatchConfig) : UInt32 :=
  match watch.permissions with
  | none => 0xF
  | some listed => (listed.map Permission.bit).foldr (· ||| ·) 0

-- The permissions are set first. There is room for them, so that only entries can fail.
theorem rule_eq_foldlM (accounts : Accounts) (watch : WatchConfig) :
    ∃ rule : Rule, rule.Lists (Text.utf8 watch.path) watch.accessBits [] ∧
      watch.rule accounts = watch.fields.foldlM (FieldConfig.addTo accounts) rule := by
  have hfresh := lists_directoryWatch (Text.utf8 watch.path)
  cases hpermissions : watch.permissions with
  | none =>
    refine ⟨directoryWatch (Text.utf8 watch.path), ?_, ?_⟩
    · rw [accessBits, hpermissions]
      exact hfresh
    · rw [WatchConfig.rule, hpermissions]
      rfl
  | some listed =>
    have hset : (directoryWatch (Text.utf8 watch.path)).setPermissions (Permission.mask listed) =
        .ok (ofPredicates (Text.utf8 watch.path)
          [watchedPath (Text.utf8 watch.path), access (Permission.mask listed)]) := by
      rw [hfresh.eq]
      exact setPermissions_ofPredicates Permission.allBits (Permission.mask listed) hfresh.room
    refine ⟨_, ⟨rfl, hfresh.room⟩, ?_⟩
    rw [WatchConfig.rule, hpermissions]
    simp only [hset, accessBits, hpermissions, ← Permission.mask_eq_foldr]
    rfl

theorem rule_of_resolves (hroom : watch.fields.length ≤ 62)
    (hall : ∀ entry ∈ watch.fields, entry.Resolves accounts) :
    ∃ rule added, watch.rule accounts = .ok rule ∧
      rule.Lists (Text.utf8 watch.path) watch.accessBits added ∧
      List.Forall₂ (FieldConfig.Says accounts) watch.fields added := by
  obtain ⟨rule, hlists, hrule⟩ := rule_eq_foldlM accounts watch
  rw [hrule]
  exact foldlM_of_resolves hlists (by rwa [List.length_nil, Nat.zero_add]) hall

-- The error is that of the first entry that fails.
def FirstFailure (accounts : Accounts) (watch : WatchConfig) (error : RuleError) : Prop :=
  ∃ before entry after, watch.fields = before ++ entry :: after ∧ before.length ≤ 62 ∧
    (∀ earlier ∈ before, earlier.Resolves accounts) ∧ entry.Fails accounts before.length error

theorem rule_of_firstFailure {error : RuleError} (h : watch.FirstFailure accounts error) :
    watch.rule accounts = .error error := by
  obtain ⟨before, entry, after, hfields, hroom, hbefore, hentry⟩ := h
  obtain ⟨rule, hlists, hrule⟩ := rule_eq_foldlM accounts watch
  rw [hrule, hfields]
  rw [← Nat.zero_add before.length] at hroom hentry
  exact foldlM_of_fails hlists hroom hbefore hentry after

-- What a watch comes to, with what decides it.
theorem rule_cases (accounts : Accounts) (watch : WatchConfig) :
    ((watch.fields.length ≤ 62 ∧ ∀ entry ∈ watch.fields, entry.Resolves accounts) ∧
      ∃ rule, watch.rule accounts = .ok rule) ∨
    ∃ error, watch.FirstFailure accounts error ∧ watch.rule accounts = .error error := by
  by_cases hall : watch.fields.length ≤ 62 ∧ ∀ entry ∈ watch.fields, entry.Resolves accounts
  · obtain ⟨rule, added, hrule, -⟩ := rule_of_resolves hall.1 hall.2
    exact .inl ⟨hall, rule, hrule⟩
  · rw [← Nat.zero_add watch.fields.length] at hall
    obtain ⟨before, entry, after, error, hfields, hroom, hbefore, hentry⟩ :=
      exists_first_failure accounts 0 (Nat.zero_le _) hall
    rw [Nat.zero_add] at hroom hentry
    have hfirst : watch.FirstFailure accounts error :=
      ⟨before, entry, after, hfields, hroom, hbefore, hentry⟩
    exact .inr ⟨error, hfirst, rule_of_firstFailure hfirst⟩

-- A watch has a rule just if its entries fit and mean something. The rule lists the path, the kinds of
-- access and the entries in their order. Otherwise the first entry that fails is told. Only which
-- kinds of access are listed counts.
theorem rule_translates (hpath : watch.path.utf8ByteSize < 2 ^ 32) (accounts : Accounts) :
    ((∃ rule, watch.rule accounts = .ok rule) ↔
      watch.fields.length ≤ 62 ∧ ∀ entry ∈ watch.fields, entry.Resolves accounts) ∧
    (∀ rule, watch.rule accounts = .ok rule →
      rule.path = Text.utf8 watch.path ∧ rule.count = watch.fields.length + 2 ∧
      ∃ length added, length.toNat = watch.path.utf8ByteSize ∧
        rule.predicates =
          ⟨.dir, .equal, length⟩ :: ⟨.perm, .equal, watch.accessBits⟩ :: added ∧
        List.Forall₂ (FieldConfig.Says accounts) watch.fields added) ∧
    (∀ error, watch.rule accounts = .error error ↔ watch.FirstFailure accounts error) ∧
    ∀ listed listed' : List Permission, (∀ kind, kind ∈ listed ↔ kind ∈ listed') →
      { watch with permissions := some listed }.rule accounts =
        { watch with permissions := some listed' }.rule accounts := by
  have hok : (∃ rule, watch.rule accounts = .ok rule) →
      watch.fields.length ≤ 62 ∧ ∀ entry ∈ watch.fields, entry.Resolves accounts := by
    rintro ⟨rule, hrule⟩
    rcases rule_cases accounts watch with ⟨hall, -⟩ | ⟨error, -, herror⟩
    · exact hall
    · rw [hrule] at herror
      cases herror
  refine ⟨⟨hok, ?_⟩, ?_, ?_, ?_⟩
  · rintro ⟨hroom, hall⟩
    obtain ⟨rule, added, hrule, -⟩ := rule_of_resolves hroom hall
    exact ⟨rule, hrule⟩
  · intro rule hrule
    obtain ⟨hroom, hall⟩ := hok ⟨rule, hrule⟩
    obtain ⟨rule', added, hrule', hlists, hadded⟩ := rule_of_resolves hroom hall
    obtain rfl := Except.ok.inj (hrule.symm.trans hrule')
    refine ⟨by rw [hlists.eq]; rfl, ?_, UInt32.ofNat (Text.utf8 watch.path).length, added, ?_,
      hlists.predicates_eq, hadded⟩
    · rw [hlists.count_eq, hadded.length_eq]
    · rw [Text.length_utf8, UInt32.toNat_ofNat', Nat.mod_eq_of_lt hpath]
  · intro error
    refine ⟨fun herror => ?_, rule_of_firstFailure⟩
    rcases rule_cases accounts watch with ⟨-, rule, hrule⟩ | ⟨other, hfirst, hother⟩
    · rw [herror] at hrule
      cases hrule
    · obtain rfl := Except.error.inj (hother.symm.trans herror)
      exact hfirst
  · intro listed listed' hsame
    simp only [WatchConfig.rule, Permission.mask_congr hsame]

-- A user by name and a group by number, and the same with two values more that mean nothing.
theorem rule_translates_user_and_group :
    let watch : WatchConfig := {
      path := "/d"
      permissions := some [.write, .read, .write]
      fields := [⟨.uid, .equal, "root"⟩, ⟨.gid, .ge, "0x10"⟩] }
    let refused : WatchConfig :=
      { watch with fields := watch.fields ++ [⟨.success, .equal, "2"⟩, ⟨.arch, .equal, "0"⟩] }
    watch.path.utf8ByteSize < 2 ^ 32 ∧
      (∃ rule, watch.rule Accounts.standard = .ok rule ∧ rule.count = 4 ∧
        ∃ length added, length.toNat = watch.path.utf8ByteSize ∧
          rule.predicates = ⟨.dir, .equal, length⟩ :: ⟨.perm, .equal, 6⟩ :: added) ∧
      { watch with permissions := some [.read, .write] }.rule Accounts.standard =
        watch.rule Accounts.standard ∧
      refused.rule Accounts.standard = .error (.invalidValue .success "2") := by
  intro watch refused
  have hpath : watch.path.utf8ByteSize < 2 ^ 32 := by decide
  have hresolves : ∀ entry ∈ watch.fields, entry.Resolves Accounts.standard := by
    refine List.forall_mem_cons.mpr ⟨⟨0, .user rfl (by decide) rfl⟩, List.forall_mem_singleton.mpr ?_⟩
    exact ⟨16, .number (.inr rfl) (Numeral.denotes_of_mem_spellings (by decide))⟩
  have hmeaningless : ¬(⟨.success, .equal, "2"⟩ : FieldConfig).Resolves Accounts.standard := by
    rintro ⟨number, hstands⟩
    have hresolve := resolve_of_stands hstands
    have herror : resolve Accounts.standard .success "2" = .error (.invalidValue .success "2") := rfl
    rw [herror] at hresolve
    cases hresolve
  obtain ⟨hok, hlists, -, hsame⟩ := @rule_translates watch hpath Accounts.standard
  obtain ⟨-, -, herror, -⟩ := @rule_translates refused hpath Accounts.standard
  refine ⟨hpath, ?_, ?_, ?_⟩
  · obtain ⟨rule, hrule⟩ := hok.mpr ⟨by decide, hresolves⟩
    obtain ⟨-, hcount, length, added, hlength, hpredicates, -⟩ := hlists rule hrule
    exact ⟨rule, hrule, hcount, length, added, hlength, hpredicates⟩
  · exact hsame [.read, .write] [.write, .read, .write] fun kind => by cases kind <;> decide
  · exact (herror _).mpr ⟨watch.fields, ⟨.success, .equal, "2"⟩, [⟨.arch, .equal, "0"⟩], rfl,
      by decide, hresolves, .inr ⟨by decide, hmeaningless, rfl⟩⟩

end WatchConfig

end AuditCollector
