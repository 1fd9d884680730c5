import RouteDoc.Route.Basic

/-!
# Questions to the service

* `instructions`: what the service is told about the form of its answers;
* `prompt`: the question about a route.
-/

namespace RouteDoc

/-- What the service is told before each question. -/
def instructions : String :=
  String.intercalate "\n" [
    "You are an expert API documentation generator. You MUST respond with ONLY a valid JSON object, no markdown, no explanations, no backticks.",
    "",
    "Your response must be a single JSON object in this exact format:",
    "\x7b",
    "  \"summary\": \"Brief description\",",
    "  \"description\": \"Detailed description\",",
    "  \"requestSchema\": \x7b",
    "    \"type\": \"object\",",
    "    \"properties\": \x7b\x7d,",
    "    \"required\": []",
    "  \x7d,",
    "  \"responseSchema\": \x7b",
    "    \"type\": \"object\",",
    "    \"properties\": \x7b\x7d",
    "  \x7d,",
    "  \"parameters\": [],",
    "  \"tags\": [\"TagName\"],",
    "  \"examples\": \x7b",
    "    \"request\": \x7b\x7d,",
    "    \"response\": \x7b\x7d",
    "  \x7d,",
    "  \"statusCodes\": \x7b",
    "    \"200\": \"Success description\"",
    "  \x7d",
    "\x7d",
    "",
    "CRITICAL: Return ONLY the JSON object. No text before or after. No markdown formatting."]

/-- A line for a list, unless it is empty. -/
def listLine (label : String) (xs : List String) : List String :=
  if xs.isEmpty then [] else [label ++ String.intercalate ", " xs]

/-- A line for a text, unless it is missing or empty. -/
def textLine (label : String) (s : Option String) : List String :=
  match s with
  | some t => if t.isEmpty then [] else [label ++ t]
  | none => []

/-- The question about a route. -/
def prompt (r : Route) : String :=
  let code :=
    match r.handlerSource with
    | some s => if s.isEmpty then "No code available" else s
    | none => "No code available"
  String.intercalate "\n" (
    ["Analyze this API route:", "", "Method: " ++ r.method, "Path: " ++ r.path] ++
    listLine "Path parameters: " (r.parameters.map (·.name)) ++
    listLine "Middleware: " r.middleware ++
    textLine "Source comment: " r.leadingComment ++
    textLine "Handler reference: " r.handlerName ++
    ["Handler Code:", code, "", "Generate API documentation focusing on:",
      "1. What this endpoint actually does", "2. Expected request format", "3. Response format",
      "4. HTTP status codes used", "5. Realistic examples", "", "Return analysis as JSON only."])

end RouteDoc
