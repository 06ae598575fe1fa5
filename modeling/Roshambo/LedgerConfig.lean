import Roshambo.Address.Codec

namespace Roshambo

structure LedgerConfig where
  addressPrefix : String
  moduleAccount : String
  authorityModule : String
  deriving DecidableEq

namespace LedgerConfig

def initial : LedgerConfig := ⟨"rps", "rps", "gov"⟩

def codec (c : LedgerConfig) : Except LedgerError Bech32Codec :=
  Bech32Codec.new c.addressPrefix

def validate (c : LedgerConfig) : Except LedgerError Unit := do
  if c.addressPrefix = "" then throw (.config "Address prefix cannot be empty")
  if c.moduleAccount = "" then throw (.config "Module account name cannot be empty")
  if c.authorityModule = "" then throw (.config "Authority module name cannot be empty")
  if c.moduleAccount = c.authorityModule then throw (.config "Authority module must differ from the pool module")
  let _ ← c.codec

def authorityText (c : LedgerConfig) : Except LedgerError String := do
  (← c.codec).encode (.ofModule c.authorityModule)

def toJson (c : LedgerConfig) : Json :=
  .record [("address_prefix", .ofText c.addressPrefix), ("module_account", .ofText c.moduleAccount),
    ("authority_module", .ofText c.authorityModule)]

def ofJson? (j : Json) : Option LedgerConfig := do
  let [hrp, account, authority] ← j.fields? ["address_prefix", "module_account", "authority_module"] 3 | none
  return ⟨← hrp.bind Json.text?, ← account.bind Json.text?, ← authority.bind Json.text?⟩

end LedgerConfig

end Roshambo
