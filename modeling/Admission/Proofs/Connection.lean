import Admission.Connection
import Admission.Proofs.FixedString

set_option autoImplicit false

/-!
# Connections in shared memory

What a slot keeps of a connection, whoever used the slot before.
-/

namespace Admission

/-- The connection as a slot keeps it. -/
def Connection.cut (c : Connection) : Connection :=
  { c with
    host := FixedString.cut connectionFieldCapacity c.host
    hostname := FixedString.cut connectionFieldCapacity c.hostname
    database := FixedString.cut connectionFieldCapacity c.database
    user := FixedString.cut connectionFieldCapacity c.user }

/-- What is read back depends on the stored connection alone. -/
@[simp] theorem SharedConnection.load_store (old : SharedConnection) (c : Connection) :
    (old.store c).load = c.cut := by
  cases hn : c.noblock <;> simp [SharedConnection.store, SharedConnection.load, Connection.cut, hn]

/-- To store the connection that is there leaves every byte as it is. -/
theorem SharedConnection.store_load_store (old : SharedConnection) (c : Connection) :
    (old.store c).store (old.store c).load = old.store c := by
  cases hn : c.noblock <;>
    simp [SharedConnection.store, SharedConnection.load, hn]

end Admission
