import SettlementOps.Records

/-!
# The caller of an operation

* `RequestContext` — who calls, for which merchant, and with which roles.
* `scopeOf` — the scope of every repository call made for a request.
* `hasAtLeast` — the role check of the guarded operations.
-/

namespace SettlementOps

inductive Role
  | operator
  | approver
  | admin
  deriving DecidableEq, Repr

structure RequestContext where
  userId : String
  tenantId : MerchantId
  roles : List Role
  correlationId : String
  deriving DecidableEq, Repr

/-- The only way to derive a repository scope. -/
def scopeOf (ctx : RequestContext) : MerchantScope := ⟨ctx.tenantId⟩

/-- Admin implies approver implies operator. -/
def RANK : Role → Nat
  | .operator => 1
  | .approver => 2
  | .admin => 3

def hasAtLeast (ctx : RequestContext) (minimum : Role) : Bool :=
  ctx.roles.any (fun r => RANK minimum ≤ RANK r)

end SettlementOps
