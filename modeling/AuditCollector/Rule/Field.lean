namespace AuditCollector.Rule

-- What a rule can compare. The kernel knows each field by a number.
inductive Field where
  | pid | uid | euid | suid | fsuid | gid | egid | sgid | fsgid | loginUid
  | pers | arch | msgType | success | watch | perm | dir
deriving DecidableEq, Repr

namespace Field

def all : List Field :=
  [pid, uid, euid, suid, fsuid, gid, egid, sgid, fsgid, loginUid, pers, arch, msgType,
    success, watch, perm, dir]

def id : Field → UInt32
  | pid => 0
  | uid => 1
  | euid => 2
  | suid => 3
  | fsuid => 4
  | gid => 5
  | egid => 6
  | sgid => 7
  | fsgid => 8
  | loginUid => 9
  | pers => 10
  | arch => 11
  | msgType => 12
  | success => 104
  | watch => 105
  | perm => 106
  | dir => 107

def ofId? (id : UInt32) : Option Field := all.find? fun field => field.id == id

-- The spelling in configuration files and messages.
def name : Field → String
  | pid => "pid"
  | uid => "uid"
  | euid => "euid"
  | suid => "suid"
  | fsuid => "fsuid"
  | gid => "gid"
  | egid => "egid"
  | sgid => "sgid"
  | fsgid => "fsgid"
  | loginUid => "loginuid"
  | pers => "pers"
  | arch => "arch"
  | msgType => "msgtype"
  | success => "success"
  | watch => "watch"
  | perm => "perm"
  | dir => "dir"

def ofName? (name : String) : Option Field := all.find? fun field => field.name == name

-- The spelling in the description of a rule.
def label : Field → String
  | pid => "Pid"
  | uid => "Uid"
  | euid => "Euid"
  | suid => "Suid"
  | fsuid => "Fsuid"
  | gid => "Gid"
  | egid => "Egid"
  | sgid => "Sgid"
  | fsgid => "Fsgid"
  | loginUid => "LoginUid"
  | pers => "Pers"
  | arch => "Arch"
  | msgType => "MsgType"
  | success => "Success"
  | watch => "Watch"
  | perm => "Perm"
  | dir => "Dir"

def isUser : Field → Bool
  | uid | euid | suid | fsuid | loginUid => true
  | _ => false

def isGroup : Field → Bool
  | gid | egid | sgid | fsgid => true
  | _ => false

@[simp] theorem ofId?_id (field : Field) : ofId? field.id = some field := by
  cases field <;> rfl

end Field

end AuditCollector.Rule
