import Judge.Language

/-!
The languages known from the start.
-/

namespace Judge.Language

/-- A language compiled by a compiler of the `gcc` family. -/
def gccLike (compiler standard printableName internalName : String) (extensions : List String)
    (sourceName : String) : Language where
  extensions
  compiled := true
  printableName
  internalName
  compileCommand := [compiler, standard, "-O2", "-s", "-static", "-DONLINE_JUDGE", sourceMark, "-o",
    "/box/output"]
  runCommand := ["/box/output"]
  mounts := [.bind "/etc"]
  sourceName
  compiledName := "/box/output"

/-- C. The mathematics library comes after the source, whose symbols it has to resolve. -/
def c : Language :=
  let language := gccLike "gcc" "-std=c11" "C" "c" [".c"] "/box/main.c"
  { language with compileCommand := language.compileCommand ++ ["-lm"] }

/-- C++ in one of its editions. -/
def cpp (standard printableName internalName terminal : String) : Language :=
  gccLike "g++" standard printableName internalName [".cpp", ".c++", ".cc", ".cxx", terminal]
    "/box/main.cpp"

/-- Pascal. -/
def pascal : Language where
  extensions := [".pas"]
  compiled := true
  printableName := "Pascal"
  internalName := "pascal"
  compileCommand := ["fpc", "-O2", "-XSst", "-Mobjfpc", "-vw", "-dONLINE_JUDGE", sourceMark,
    "-o/box/output"]
  runCommand := ["/box/output"]
  mounts := [.bind "/etc"]
  sourceName := "/box/main.pas"
  compiledName := "/box/output"

/-- Go. -/
def golang : Language where
  extensions := [".go"]
  compiled := true
  printableName := "Go"
  internalName := "golang"
  compileCommand := ["/usr/bin/go", "build", sourceMark]
  runCommand := ["/box/main"]
  buildEnv := [("CGO_ENABLED", "0"), ("GO111MODULE", "off"), ("GOCACHE", "/go/cache"),
    ("GOMAXPROCS", "1"), ("GOPATH", "/box")]
  runEnv := [("GOMAXPROCS", "1")]
  mounts := [{ inside := "/go", options := "tmp", verbatim := true }]
  sourceName := "/box/main.go"
  compiledName := "/box/main"

/-- Haskell, disabled unless a catalog of its own enables it. -/
def haskell : Language where
  disabled := true
  extensions := [".hs", ".lhs"]
  compiled := true
  printableName := "Haskell"
  internalName := "haskell"
  compileCommand := ["ghc", "-o", "/box/output", sourceMark]
  runCommand := ["/box/output"]
  sourceName := "/box/main.hs"
  compiledName := "/box/output"

/-- Java, disabled unless a catalog of its own enables it. -/
def java : Language where
  disabled := true
  extensions := [".java"]
  compiled := true
  printableName := "Java"
  internalName := "java"
  compileCommand := ["javac", sourceMark]
  runCommand := ["java", "-cp", "/box", "Main"]
  mounts := [.bind "/etc"]
  sourceName := "/box/Main.java"
  compiledName := "/box/Main.class"

/-- Python 3. -/
def python3 : Language where
  extensions := [".py", ".py3"]
  compiled := false
  printableName := "Python 3"
  internalName := "python3"
  runCommand := ["python3", "/box/main.py"]
  sourceName := "/box/main.py"
  compiledName := "/box/main.py"

/-- Submissions that are the output itself. -/
def outputOnly : Language where
  extensions := [".output_only"]
  compiled := false
  printableName := "Output Only"
  internalName := "outputOnly"
  runCommand := ["cat", "/box/output"]
  sourceName := "/box/output_src"
  compiledName := "/box/output"

/-- The catalog. -/
def catalog : List Language := [
  c,
  cpp "-std=c++11" "C++11" "cpp" ".cpp11",
  cpp "-std=c++14" "C++14" "cpp14" ".cpp14",
  cpp "-std=c++17" "C++17" "cpp17" ".cpp17",
  cpp "-std=c++20" "C++20" "cpp20" ".cpp20",
  pascal, golang, haskell, java, python3, outputOnly]

end Judge.Language
