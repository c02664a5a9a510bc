import AndroidVcam.Binder.TransactionClassifier
import AndroidVcam.Lib.Hex

/-!
# ABI recipes

`parseAbiRecipe` of `runtime/RuntimeAbiGuard.cpp` reads the identity of a library and of its
dependencies, the symbols with the code they begin with, and the strategy from a text with one entry
a line.
-/

namespace Vcam.Runtime

open TextFile

deriving instance DecidableEq for BinderTransaction

structure SymbolRequirement where
  name : Text
  codePrefix : List UInt8
deriving DecidableEq

structure HookRequirement where
  role : Text
  symbol : Text
deriving DecidableEq

structure ModuleIdentity where
  moduleSuffix : Text
  fileSize : ℕ
  sha256Hex : Text
  buildIdHex : Text
deriving DecidableEq

structure RuntimeRecipe extends AbiRecipe where
  schema : ℕ
  moduleSuffix : Text
  fileSize : ℕ
  sha256Hex : Text
  buildIdHex : Text
  architecture : Text
  symbols : List SymbolRequirement
  hooks : List HookRequirement
  dependencies : List ModuleIdentity

/-! ## Fields -/

def decodeHex (text : Text) : Option (List UInt8) :=
  if text.isEmpty || text.length % 2 ≠ 0 then none else Hex.decode text

def parseDigits : ℕ → Text → Option ℕ
  | parsed, [] => some parsed
  | parsed, character :: rest =>
    if character < '0' ∨ '9' < character then none
    else
      let digit := character.toNat - '0'.toNat
      if parsed > (2 ^ 64 - 1 - digit) / 10 then none else parseDigits (parsed * 10 + digit) rest

def parseUnsignedDecimal (text : Text) : Option ℕ := if text.isEmpty then none else parseDigits 0 text

/-- What `parseAbiRecipe` writes to `error`. -/
inductive RecipeError
  | cannotOpen (path : Text)
  | noTab (line : ℕ)
  | invalidSchema (line : ℕ)
  | invalidFileSize (line : ℕ)
  | noCodePrefix (line : ℕ)
  | invalidSymbol (line : ℕ)
  | invalidHook (line : ℕ)
  | invalidTransaction (line : ℕ)
  | invalidDependency (line : ℕ)
  | unknownKey (line : ℕ) (key : Text)
  | incomplete
  | noStrategy
  | hookDuplicated
  | transactionDuplicated
  | dependencyDuplicated
deriving DecidableEq

/-- The text of an error. The line number is an `unsigned int`. -/
def RecipeError.message : RecipeError → Text
  | cannotOpen path => "cannot open recipe: " ++ path
  | noTab line => "line " ++ (number line ++ " has no tab separator")
  | invalidSchema line => "invalid schema on line " ++ number line
  | invalidFileSize line => "invalid file_size on line " ++ number line
  | noCodePrefix line => "symbol has no code prefix on line " ++ number line
  | invalidSymbol line => "invalid symbol on line " ++ number line
  | invalidHook line => "invalid hook on line " ++ number line
  | invalidTransaction line => "invalid transaction on line " ++ number line
  | invalidDependency line => "invalid dependency on line " ++ number line
  | unknownKey line key => "unknown key on line " ++ (number line ++ (": " ++ key))
  | incomplete => "recipe is incomplete or uses an unsupported schema"
  | noStrategy => "schema 2 recipe has no complete ARM64 strategy"
  | hookDuplicated => "schema 2 hook is missing its symbol or duplicates a role"
  | transactionDuplicated => "schema 2 transaction role or code is duplicated"
  | dependencyDuplicated => "schema 2 dependency is duplicated"
where
  number (line : ℕ) : Text := decimal (line % 2 ^ 32)

/-! ## Lines -/

def emptyRecipe : RuntimeRecipe where
  transactions := []
  schema := 0
  moduleSuffix := []
  fileSize := 0
  sha256Hex := []
  buildIdHex := []
  architecture := []
  symbols := []
  hooks := []
  dependencies := []

def parseSymbol (line : ℕ) (value : Text) : Except RecipeError SymbolRequirement :=
  match splitFirst '\t' value with
  | none => .error (.noCodePrefix line)
  | some (name, code) =>
    match decodeHex code with
    | none => .error (.invalidSymbol line)
    | some codePrefix =>
      if name.isEmpty then .error (.invalidSymbol line) else .ok ⟨name, codePrefix⟩

def parseHook (line : ℕ) (value : Text) : Except RecipeError HookRequirement :=
  match splitFirst '\t' value with
  | none => .error (.invalidHook line)
  | some (role, symbol) =>
    if role.isEmpty || symbol.isEmpty then .error (.invalidHook line) else .ok ⟨role, symbol⟩

def parseTransaction (line : ℕ) (value : Text) : Except RecipeError BinderTransaction :=
  match splitFirst '\t' value with
  | none => .error (.invalidTransaction line)
  | some (role, text) =>
    match parseUnsignedDecimal text with
    | none => .error (.invalidTransaction line)
    | some code =>
      if role.isEmpty || code = 0 || decide (2 ^ 32 ≤ code) then .error (.invalidTransaction line)
      else .ok ⟨role, code⟩

def parseDependency (line : ℕ) (value : Text) : Except RecipeError ModuleIdentity :=
  match splitAll '\t' value with
  | [suffix, size, sha256Hex, buildIdHex] =>
    match parseUnsignedDecimal size, decodeHex sha256Hex, decodeHex buildIdHex with
    | some fileSize, some sha256, some buildId =>
      if suffix.isEmpty || fileSize = 0 || sha256.length ≠ 32 || decide (buildId.length < 8) then
        .error (.invalidDependency line)
      else .ok ⟨suffix, fileSize, sha256Hex, buildIdHex⟩
    | _, _, _ => .error (.invalidDependency line)
  | _ => .error (.invalidDependency line)

def parseEntry (line : ℕ) (parsed : RuntimeRecipe) (key value : Text) :
    Except RecipeError RuntimeRecipe :=
  if key = "schema" then
    match parseUnsignedDecimal value with
    | none => .error (.invalidSchema line)
    | some number =>
      if 2 ^ 32 ≤ number then .error (.invalidSchema line) else .ok { parsed with schema := number }
  else if key = "module" then .ok { parsed with moduleSuffix := value }
  else if key = "file_size" then
    match parseUnsignedDecimal value with
    | none => .error (.invalidFileSize line)
    | some number => .ok { parsed with fileSize := number }
  else if key = "sha256" then .ok { parsed with sha256Hex := value }
  else if key = "build_id" then .ok { parsed with buildIdHex := value }
  else if key = "architecture" then .ok { parsed with architecture := value }
  else if key = "symbol" then do
    let symbol ← parseSymbol line value
    return { parsed with symbols := parsed.symbols ++ [symbol] }
  else if key = "hook" then do
    let hook ← parseHook line value
    return { parsed with hooks := parsed.hooks ++ [hook] }
  else if key = "transaction" then do
    let transaction ← parseTransaction line value
    return { parsed with transactions := parsed.transactions ++ [transaction] }
  else if key = "dependency" then do
    let dependency ← parseDependency line value
    return { parsed with dependencies := parsed.dependencies ++ [dependency] }
  else .error (.unknownKey line key)

def parseLine (line : ℕ) (parsed : RuntimeRecipe) (text : Text) : Except RecipeError RuntimeRecipe :=
  let text := popCR text
  if text.isEmpty || text.head? = some '#' then .ok parsed
  else
    match splitFirst '\t' text with
    | none => .error (.noTab line)
    | some (key, value) => parseEntry line parsed key value

/-- The loop over the lines, of which `line` came before. -/
def parseLines : ℕ → RuntimeRecipe → List Text → Except RecipeError RuntimeRecipe
  | _, parsed, [] => .ok parsed
  | line, parsed, text :: rest => do
    let parsed ← parseLine (line + 1) parsed text
    parseLines (line + 1) parsed rest

/-! ## The whole recipe -/

def checkStrategy (parsed : RuntimeRecipe) : Except RecipeError RuntimeRecipe :=
  if parsed.architecture ≠ "arm64" || parsed.hooks.isEmpty || parsed.transactions.isEmpty ||
      parsed.dependencies.isEmpty then .error .noStrategy
  else if !(parsed.hooks.all fun hook => parsed.symbols.any (·.name == hook.symbol)) ||
      !decide ((parsed.hooks.map (·.role)).Nodup) then .error .hookDuplicated
  else if !decide ((parsed.transactions.map (·.role)).Nodup) ||
      !decide ((parsed.transactions.map (·.code)).Nodup) then .error .transactionDuplicated
  else if !decide ((parsed.dependencies.map (·.moduleSuffix)).Nodup) then
    .error .dependencyDuplicated
  else .ok parsed

def checkRecipe (parsed : RuntimeRecipe) : Except RecipeError RuntimeRecipe :=
  match decodeHex parsed.buildIdHex, decodeHex parsed.sha256Hex with
  | some buildId, some sha256 =>
    if (parsed.schema ≠ 1 && parsed.schema ≠ 2) || parsed.moduleSuffix.isEmpty ||
        parsed.fileSize = 0 || decide (buildId.length < 8) || sha256.length ≠ 32 ||
        parsed.symbols.isEmpty then .error .incomplete
    else if parsed.schema = 2 then checkStrategy parsed
    else .ok parsed
  | _, _ => .error .incomplete

/-- `parseAbiRecipe` on what is behind the path; `none` is a file that cannot be opened. -/
def parseAbiRecipe (path : Text) (file : Option Text) : Except RecipeError RuntimeRecipe :=
  match file with
  | none => .error (.cannotOpen path)
  | some text => do
    let parsed ← parseLines 0 emptyRecipe (getlines text)
    checkRecipe parsed

end Vcam.Runtime
