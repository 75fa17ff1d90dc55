import TypedRows.Client
import TypedRows.Database.PreparedQuery

namespace TypedRows

-- Pools whose connections are handles on a disk.

def Disk.opener : Opener Disk Handle where
  openAt spec disk := disk.open spec.path spec.flags

def Disk.engine : Engine (Disk × Handle) := Database.engine.on Database.ofPair Database.toPair

def Disk.transactor : Transactor (Disk × Handle) :=
  Database.transactor.on Database.ofPair Database.toPair

end TypedRows
