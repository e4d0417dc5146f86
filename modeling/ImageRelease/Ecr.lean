import ImageRelease.Runner
/-!
Logins to the registries of Amazon ECR.

For each registry a token is fetched with the credentials in the environment of that one command,
and the token goes to the login by its standard input, masked from before it is handed over.
-/

namespace ImageRelease

/-- The variables that give the credentials to the `aws` command. -/
def Aws.environment (a : Aws) : Env :=
  [("AWS_ACCESS_KEY_ID", a.accessKeyId), ("AWS_SECRET_ACCESS_KEY", a.secretAccessKey),
    ("AWS_REGION", a.region), ("AWS_DEFAULT_REGION", a.region)]

namespace Ecr

def host (registry region : String) : String :=
  registry ++ ".dkr.ecr." ++ region ++ ".amazonaws.com"

def tokenCommand (region : String) : List String :=
  ["aws", "ecr", "get-login-password", "--region", region]

def loginCommand (host : String) : List String :=
  ["docker", "login", "--username", "AWS", "--password-stdin", host]

def loginTo (r : Runner) (a : Aws) (registry : String) : Act Session String := do
  let host := host registry a.region
  let token := Text.strip (← r.run (tokenCommand a.region) none a.environment).stdout
  addSecret token
  let _ ← r.run (loginCommand host) none [] (some token)
  info ("  Logged in to " ++ host)
  return host

def loginEach (r : Runner) (a : Aws) : List String → Act Session (List String)
  | [] => return []
  | registry :: rest => do
    let host ← loginTo r a registry
    return host :: (← loginEach r a rest)

def login (r : Runner) (a : Aws) (registries : List String) : Act Session (List String) :=
  timed "Login to Amazon ECR" (loginEach r a registries)

end Ecr

end ImageRelease
