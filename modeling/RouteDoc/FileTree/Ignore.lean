import RouteDoc.FileTree.Glob

/-!
# Names that are passed over

* `isIgnoredDirectory`: directories that are not entered;
* `isTestName`, `isToolingName`: files that are not read.
-/

namespace RouteDoc

/-- Words that directories are passed over for: caches of dependencies, build
output, version control, coverage, editors and generated assets. -/
def ignoredWords : List String :=
  ["node_modules", "bower_components", "jspm_packages", ".yarn", ".pnpm-store", "dist", "build",
    ".git", ".svn", ".hg", "coverage", ".nyc_output", ".idea", ".vscode", ".next", ".nuxt",
    ".svelte-kit", ".cache", "storybook-static"]

/-- Whether the name of a directory contains one of the words, case aside. -/
def isIgnoredDirectory (directory : String) (extra : List String) : Bool :=
  let name := (Text.lower (FilePath.ofText directory).name).toList
  (ignoredWords ++ extra).any fun word => Text.isInfix (Text.lower word).toList name

/-- Names of tests and declarations. -/
def testNames : List String := ["*.test.*", "*.spec.*", "test.*", "spec.*", "*.d.ts"]

/-- Names of files that configure tools. -/
def toolingNames : List String :=
  ["*.config.*", ".eslintrc*", ".prettierrc*", ".babelrc*", "gulpfile.*", "gruntfile.*",
    "karma.conf.*", "protractor.conf.*", "package.json", "package-lock.json", "tsconfig*.json"]

/-- Whether a name fits one of the patterns, case aside. -/
def fitsAny (patterns : List String) (name : String) : Bool :=
  patterns.any fun pattern => Glob.accepts (Text.lower pattern) (Text.lower name)

/-- Whether a file of this name is a test or a declaration. -/
def isTestName (name : String) : Bool := fitsAny testNames name

/-- Whether a file of this name configures a tool. -/
def isToolingName (name : String) : Bool := fitsAny toolingNames name

end RouteDoc
