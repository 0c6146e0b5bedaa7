import JsonRules.Engine

namespace JsonRules

structure Settings where
  version : String := "0.1.0"
  /-- The pattern that the whole of a profile's name has to match. -/
  profilePattern : String := "^[A-Za-z0-9_-]+$"
  /-- Whether validating against a profile that does not exist is an error. -/
  strictProfiles : Bool := false
  presencePolicy : PresencePolicy := .reportAll
  parallelThreshold : Nat := Engine.defaultThreshold
deriving DecidableEq, Repr

namespace Settings

def form : RecordForm where
  name := "ServiceConfig"
  fields := [("version", false), ("profile_pattern", false), ("strict_profiles", false),
    ("presence_policy", false), ("parallel_threshold", false)]
  check key v :=
    match key with
    | "version" => v.decodeString.map fun _ => ()
    | "profile_pattern" => v.decodeString.map fun _ => ()
    | "strict_profiles" => v.decodeBool.map fun _ => ()
    | "presence_policy" => (PresencePolicy.ofJson v).map fun _ => ()
    | "parallel_threshold" => v.decodeCount.map fun _ => ()
    | _ => .ok ()

/-- Settings from a document; a field that is missing has its default. -/
def ofJson (v : Json) : Decoded Settings := do
  let members ← form.read v
  let d : Settings := {}
  return {
    version := ← RecordForm.optional members "version" Json.decodeString d.version
    profilePattern :=
      ← RecordForm.optional members "profile_pattern" Json.decodeString d.profilePattern
    strictProfiles :=
      ← RecordForm.optional members "strict_profiles" Json.decodeBool d.strictProfiles
    presencePolicy :=
      ← RecordForm.optional members "presence_policy" PresencePolicy.ofJson d.presencePolicy
    parallelThreshold :=
      ← RecordForm.optional members "parallel_threshold" Json.decodeCount d.parallelThreshold }

def toJson (s : Settings) : Json :=
  Json.ofMembers [("version", .string s.version), ("profile_pattern", .string s.profilePattern),
    ("strict_profiles", .bool s.strictProfiles), ("presence_policy", .string s.presencePolicy.name),
    ("parallel_threshold", .ofNat s.parallelThreshold)]

end Settings

end JsonRules
