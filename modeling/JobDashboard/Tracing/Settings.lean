import JobDashboard.Config.Settings

/-!
# How the program logs

The settings choose between lines of text and JSON records, and the filter that holds unless a
variable names another. A program without settings looks at the environment alone.
-/

namespace JobDashboard

structure TracingSettings where
  /-- What the log calls the surroundings of the program. -/
  environment : String
  json : Bool
  filter : String
deriving DecidableEq

namespace TracingSettings

def ofSettings (logging : LoggingSettings) (d : Deployment) : TracingSettings where
  environment := d.name
  json := logging.json
  filter := logging.level

def ofVariables (vars : Variables) : TracingSettings where
  environment := (vars.lookup "APP_ENV").getD "development"
  json := (vars.lookup "LOG_FORMAT").any fun format =>
    Text.lowercase format.toList == "json".toList
  filter := ({} : LoggingSettings).level

end TracingSettings

end JobDashboard
