import JobDashboard.Text.Blank
import JobDashboard.Text.Lowercase

/-!
# Where the program runs

A deployment chooses the settings file. It is named by an environment variable, with blanks around
the name and the case of its letters left aside.
-/

namespace JobDashboard

/-- Environment variables, each name once. -/
abbrev Variables := List (String × String)

inductive Deployment where
  | development
  | testing
  | production
deriving DecidableEq, Inhabited

/-- A name that no deployment has, without blanks around it and in lower case. -/
structure UnknownDeployment where
  name : String
deriving DecidableEq

def UnknownDeployment.message (e : UnknownDeployment) : String :=
  s!"Invalid environment: {e.name}. Expected: local, test, or prod"

namespace Deployment

def name : Deployment → String
  | development => "local"
  | testing => "test"
  | production => "prod"

/-- The settings file's name, without the extension that tells its format. -/
def settingsFile (d : Deployment) : String := "appsettings." ++ d.name

def ofText (text : String) : Except UnknownDeployment Deployment :=
  let name := String.ofList (Text.lowercase (Text.trim text.toList))
  if name ∈ ["local", "dev", "development"] then .ok development
  else if name = "test" then .ok testing
  else if name ∈ ["prod", "production"] then .ok production
  else .error ⟨name⟩

/-- The deployment that the environment names, `local` if it names none. -/
def ofVariables (vars : Variables) : Except UnknownDeployment Deployment :=
  match vars.lookup "APP_ENVIRONMENT" with
  | some text => ofText text
  | none => .ok development

end Deployment

end JobDashboard
