import SignOn.Validation

/-!
Settings: the clients of a deployment as a file describes them. Every field that a client declares
has a default, apart from its type; fields that it does not declare are kept as they were found, in
their order. A field is dumped only where it differs from its default.
-/

namespace SignOn

structure ClientSettings where
  name : Option String := none
  type : String
  callbackUrl : Option String := none
  contextual : Bool := false
  includesName : Bool := true
  defaultRoles : List String := []
  defaultPermissions : List String := []
  roleAttributes : List String := []
  loginUrl : Option String := none
  usernameParameter : String := "username"
  passwordParameter : String := "password"
  realm : String := "authentication required"
  /-- For each user the source of the password. -/
  users : Entries String := []
  authorizationUrl : Option String := none
  tokenUrl : Option String := none
  userinfoUrl : Option String := none
  clientIdSource : Option String := none
  clientSecretSource : Option String := none
  scopes : List String := []
  usesProofKey : Bool := true
  idAttribute : String := "sub"
  extras : Entries Value := []

namespace Value

def optionalText : Option String → Value
  | none => .null
  | some s => .text s

def texts (items : List String) : Value := .list (items.map .text)

def textTable (entries : Entries String) : Value :=
  .table (entries.map fun (key, s) => (key, .text s))

mutual

def portable : Value → Value
  | .float x =>
    match x.kind with
    | .finite _ _ => .float x
    | _ => .null
  | .list items => .list (portableItems items)
  | .tuple items => .list (portableItems items)
  | .set items => .list (portableItems items)
  | .table entries => .table (portableEntries entries)
  | other => other

def portableItems : List Value → List Value
  | [] => []
  | item :: rest => portable item :: portableItems rest

def portableEntries : List (String × Value) → List (String × Value)
  | [] => []
  | (key, item) :: rest => (key, portable item) :: portableEntries rest

end

end Value

namespace ClientSettings

def declaredFields (settings : ClientSettings) : Entries Value :=
  [("name", .optionalText settings.name),
    ("type", .text settings.type),
    ("callback_url", .optionalText settings.callbackUrl),
    ("enable_contextual_redirects", .bool settings.contextual),
    ("include_client_name_in_callback_url", .bool settings.includesName),
    ("default_roles", .texts settings.defaultRoles),
    ("default_permissions", .texts settings.defaultPermissions),
    ("role_attributes", .texts settings.roleAttributes),
    ("login_url", .optionalText settings.loginUrl),
    ("username_parameter", .text settings.usernameParameter),
    ("password_parameter", .text settings.passwordParameter),
    ("realm", .text settings.realm),
    ("users", .textTable settings.users),
    ("authorization_url", .optionalText settings.authorizationUrl),
    ("token_url", .optionalText settings.tokenUrl),
    ("userinfo_url", .optionalText settings.userinfoUrl),
    ("client_id_source", .optionalText settings.clientIdSource),
    ("client_secret_source", .optionalText settings.clientSecretSource),
    ("scopes", .texts settings.scopes),
    ("use_pkce", .bool settings.usesProofKey),
    ("id_attribute", .text settings.idAttribute)]

def fields (settings : ClientSettings) : Entries Value :=
  settings.declaredFields ++ settings.extras

def declaredNames : List String := (declaredFields { type := "" }).map (·.1)

open Checked

def ofEntries (entries : Entries Value) : Checked ClientSettings :=
  ClientSettings.mk <$> optional entries "name" none (orNull text) <*>
    required entries "type" text <*>
    optional entries "callback_url" none (orNull text) <*>
    optional entries "enable_contextual_redirects" false bool <*>
    optional entries "include_client_name_in_callback_url" true bool <*>
    optional entries "default_roles" [] (list text) <*>
    optional entries "default_permissions" [] (list text) <*>
    optional entries "role_attributes" [] (list text) <*>
    optional entries "login_url" none (orNull text) <*>
    optional entries "username_parameter" "username" text <*>
    optional entries "password_parameter" "password" text <*>
    optional entries "realm" "authentication required" text <*>
    optional entries "users" [] (table text) <*>
    optional entries "authorization_url" none (orNull text) <*>
    optional entries "token_url" none (orNull text) <*>
    optional entries "userinfo_url" none (orNull text) <*>
    optional entries "client_id_source" none (orNull text) <*>
    optional entries "client_secret_source" none (orNull text) <*>
    optional entries "scopes" [] (list text) <*>
    optional entries "use_pkce" true bool <*>
    optional entries "id_attribute" "sub" text <*>
    .valid (entries.filter fun entry => entry.1 ∉ declaredNames)

def ofValue : Value → Checked ClientSettings := record ofEntries

/-- Whether a field has the default of its name; a type has no default. -/
def isDefault (field : String × Value) : Bool :=
  field.1 != "type" &&
    match (declaredFields { type := "" }).get? field.1 with
    | some value => field.2.same value
    | none => false

def dump (settings : ClientSettings) : Value :=
  .table (settings.declaredFields.filter (! isDefault ·) ++ Value.portableEntries settings.extras)

end ClientSettings

structure ClientsConfig where
  callbackUrl : Option String := none
  defaultClient : Option String := none
  clients : List ClientSettings := []

namespace ClientsConfig

open Checked

def ofEntries (entries : Entries Value) : Checked ClientsConfig :=
  ClientsConfig.mk <$> optional entries "callback_url" none (orNull text) <*>
    optional entries "default_client" none (orNull text) <*>
    optional entries "clients" [] (list ClientSettings.ofValue)

def ofValue : Value → Checked ClientsConfig := record ofEntries

def fields (config : ClientsConfig) : Entries Value :=
  [("callback_url", .optionalText config.callbackUrl),
    ("default_client", .optionalText config.defaultClient),
    ("clients", .list (config.clients.map fun settings => .table settings.fields))]

def optionalField (key : String) : Option String → Entries Value
  | none => []
  | some s => [(key, .text s)]

/-- What a file has to say of the configuration; an empty table if all is as by default. -/
def dump (config : ClientsConfig) : Value :=
  .table (optionalField "callback_url" config.callbackUrl ++
    optionalField "default_client" config.defaultClient ++
    (if config.clients.isEmpty then []
      else [("clients", .list (config.clients.map ClientSettings.dump))]))

def same (a b : ClientsConfig) : Bool := (Value.table a.fields).same (.table b.fields)

end ClientsConfig

end SignOn
