import ImageRelease.Entries
import ImageRelease.Failure
import ImageRelease.Number.Reading
import ImageRelease.Text.Blank
/-!
The settings of the publisher, read from the environment.

Each setting has a variable and a usual value; a variable that is set counts even when it is empty.
-/

namespace ImageRelease

abbrev Env := List (String × String)

/-- Access to AWS and the registries to log in to. -/
structure Aws where
  accessKeyId : String
  secretAccessKey : String
  region : String
  registries : List String

/-- The Docker Hub login, and where its tags are looked up. -/
structure DockerHub where
  username : String
  password : String
  url : String

/-- What is built, and under which name. -/
structure ImageSource where
  image : String
  context : String
  dockerfile : String

structure Settings where
  aws : Aws
  dockerHub : DockerHub
  image : ImageSource
  propertiesFile : String
  versionKey : String
  wheelDirectory : String
  allowedRepository : String
  toolTimeout : Float

/-- The value of a variable, or the usual one where it is not set. -/
def Env.getD (env : Env) (name usual : String) : String :=
  (Entries.get? name env).getD usual

namespace Settings

/-- The fields between commas, without the blanks around them and without blank ones. -/
def commaList (s : String) : List String :=
  (((Text.fields ',' s.toList).map Text.trim).filter (· != [])).map String.ofList

def load (env : Env) : Except Failure Settings :=
  let limit := env.getD "PUBLISH_TOOL_TIMEOUT" "3600"
  match Number.read? limit with
  | none => .error (.notANumber limit)
  | some seconds => .ok {
      aws := {
        accessKeyId := env.getD "AWS_ACCESS_KEY_ID" ""
        secretAccessKey := env.getD "AWS_SECRET_ACCESS_KEY" ""
        region := env.getD "AWS_REGION" "us-east-2"
        registries := commaList (env.getD "ECR_REGISTRIES" "711395599931") }
      dockerHub := {
        username := env.getD "DOCKER_USERNAME" ""
        password := env.getD "DOCKER_PASSWORD" ""
        url := env.getD "PUBLISH_HUB_URL" "https://hub.docker.com" }
      image := {
        image := env.getD "PUBLISH_IMAGE" "deepjavalibrary/djl-spark"
        context := env.getD "PUBLISH_CONTEXT" "."
        dockerfile := env.getD "PUBLISH_DOCKERFILE" "docker/spark/Dockerfile" }
      propertiesFile := env.getD "PUBLISH_PROPERTIES_FILE" "gradle.properties"
      versionKey := env.getD "PUBLISH_VERSION_KEY" "djl_version"
      wheelDirectory := env.getD "PUBLISH_WHEEL_DIR" "extensions/spark/setup"
      allowedRepository := env.getD "PUBLISH_ALLOWED_REPOSITORY" "deepjavalibrary/djl"
      toolTimeout := seconds }

/-- The four credentials, each with its variable. -/
def credentials (s : Settings) : List (String × String) :=
  [("AWS_ACCESS_KEY_ID", s.aws.accessKeyId), ("AWS_SECRET_ACCESS_KEY", s.aws.secretAccessKey),
    ("DOCKER_USERNAME", s.dockerHub.username), ("DOCKER_PASSWORD", s.dockerHub.password)]

def missingCredentials (s : Settings) : List String :=
  (s.credentials.filter (·.2 == "")).map (·.1)

def validateCredentials (s : Settings) : Except Rejection Unit :=
  match s.missingCredentials with
  | [] => .ok ()
  | names => .error (.missingCredentials names)

end Settings

end ImageRelease
