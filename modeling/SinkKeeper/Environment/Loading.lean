import SinkKeeper.Environment.Basic
import SinkKeeper.Environment.Settings
import SinkKeeper.Files.Folder
import SinkKeeper.Note
import SinkKeeper.Text.Case

/-!
# Loading an environment

Variables that are not set are taken from a vault of secrets, if one is named, and then from a file of
settings. A variable that is set is never changed. A user may have secrets of their own, which count first.
-/

namespace SinkKeeper

/-! ## Vaults -/

/-- What a vault answers for a name. -/
inductive Secret
  | held (text : Option String)
  | refused (f : Fault)

/-- A vault of secrets. -/
structure Vault where
  secret : String → Secret

/-- A vault of the given secrets, which refuses every other name. -/
def Vault.ofList (secrets : List (String × Secret)) : Vault :=
  ⟨fun name => (secrets.lookup name).getD (.refused (.plain .vault "not found"))⟩

/-! ## Loading -/

/-- An environment that is being loaded: the vault that was opened, the secrets that were asked for, and
the notes so far. -/
structure Loading where
  environment : Environment
  opened : Option String
  asked : List String
  notes : List Note

/-- Work on an environment that is being loaded. What happened before a failure stays. -/
abbrev Load := EStateM Failure Loading

/-- The variables that a vault may hold, in the order in which they are asked for. -/
def knownVariables : List String :=
  ["API_AUTH_TOKEN", "MQ_MASTER_NODES", "MQ_MASTER_TIMEOUT", "SINK_CONNECT_TIMEOUT",
    "SINK_STATEMENT_TIMEOUT"]

def vaultVariable : String := "KEYVAULT_NAME"

def userVariable : String := "AZURE_USER_NAME"

def vaultUrl (name : String) : String := "https://" ++ name ++ ".vault.azure.net/"

/-- The name of a variable's secret: hyphens stand for underscores. -/
def secretName (variableName : String) : String :=
  String.ofList (variableName.toList.map fun c => if c = '_' then '-' else c)

/-- The secrets of a variable, the user's own first. -/
def secretNames (user variableName : String) : List String :=
  let base := secretName variableName
  if user = "" then [base] else [base ++ "-" ++ user, base]

namespace Load

def note (level : Level) (text : String) : Load Unit :=
  modify fun s => { s with notes := s.notes ++ [Note.mk level text] }

/-- Sets a variable unless it is set. A value that no variable can have ends the loading. -/
def setIfUnset (name value : String) : Load Unit := do
  if !(← get).environment.isSet name then
    match VariableFlaw.of? name value with
    | some flaw => throw (.variable flaw)
    | none => modify fun s => { s with environment := s.environment.set name value }

def ask (vault : Vault) (name : String) : Load Secret := do
  modify fun s => { s with asked := s.asked ++ [name] }
  return vault.secret name

/-- Sets a variable from the first of some secrets that is held and not empty. -/
def fromSecrets (vault : Vault) (variableName : String) : List String → Load Unit
  | [] => pure ()
  | name :: rest => do
    match ← ask vault name with
    | .held text =>
      let value := text.getD ""
      if value = "" then fromSecrets vault variableName rest
      else
        setIfUnset variableName value
        note .info ("Loaded " ++ variableName ++ " from Key Vault secret " ++ name)
    | .refused f =>
      if f.kind.isVault then
        note .debug ("Key Vault secret " ++ name ++ " not available: " ++ f.kind.name)
        fromSecrets vault variableName rest
      else throw (.fault f)

def fromVault (vault : Vault) (user : String) : List String → Load Unit
  | [] => pure ()
  | name :: rest => do
    if !(← get).environment.isSet name then fromSecrets vault name (secretNames user name)
    fromVault vault user rest

def fromSettings : Settings → Load Unit
  | [] => pure ()
  | (name, value) :: rest => do
    match value with
    | some text => setIfUnset name text
    | none => pure ()
    fromSettings rest

/-- A name from the environment, or else from the settings, without blanks around it. -/
def chosen (settings : Settings) (name : String) : Load String := do
  let value := ((← get).environment.get? name).getD ""
  return Text.strip (if value = "" then (Settings.valueOf settings name).getD "" else value)

/-- Loads from a vault, if one is named, and from settings. -/
def fromSources (vault : Vault) (settings : Settings) : Load Unit := do
  let vaultName ← chosen settings vaultVariable
  let user ← chosen settings userVariable
  if vaultName ≠ "" then
    modify fun s => { s with opened := some (vaultUrl vaultName) }
    fromVault vault (Text.upper user) knownVariables
  fromSettings settings

/-- The settings in the bytes of a file, none if there is no file. -/
def settingsOf : Option (List UInt8) → Except Failure Settings
  | none => .ok []
  | some bytes => (Folder.textOf bytes).map Settings.read

/-- Loads from a vault and from a file of settings. -/
def fromAll (vault : Vault) (file : Option (List UInt8)) : Load Unit :=
  match settingsOf file with
  | .ok settings => fromSources vault settings
  | .error e => throw e

end Load

/-! ## Surroundings -/

/-- Where a program runs: the folder it was started in, the folder it is installed in, its variables and
the vault it can reach. -/
structure Surroundings where
  folder : Folder
  home : Folder
  environment : Environment
  vault : Vault

namespace Surroundings

/-- The file of settings in a folder, if it has one. A folder that stands in its place is read as an empty file. -/
def settingsIn (folder : Folder) : Option (List UInt8) :=
  match folder.read ".env" with
  | .ok bytes => some bytes
  | .error .directory => some []
  | .error _ => none

/-- The file of settings: the one of the folder, or else the one of the program. -/
def settingsFile (s : Surroundings) : Option (List UInt8) := (settingsIn s.folder).or (settingsIn s.home)

def loadThen {α : Type} (s : Surroundings) (work : Load α) : EStateM.Result Failure Loading α :=
  (do
    Load.fromAll s.vault s.settingsFile
    work : Load α).run ⟨s.environment, none, [], []⟩

def load (s : Surroundings) : EStateM.Result Failure Loading Unit := s.loadThen (pure ())

end Surroundings

end SinkKeeper
