namespace AuditCollector.Rule

structure Accounts where
  userId? : String → Option UInt32
  groupId? : String → Option UInt32

def Accounts.standard : Accounts where
  userId? name := List.lookup name
    [("root", 0), ("daemon", 1), ("bin", 2), ("games", 5), ("man", 6), ("nobody", 65534)]
  groupId? name := List.lookup name
    [("root", 0), ("daemon", 1), ("bin", 2), ("man", 12), ("games", 60), ("nogroup", 65534)]

end AuditCollector.Rule
