import NotebookGoto.Template.Placeholder

/-!
# The code that runs in the kernel

The template of the code that a Python kernel runs to look a definition up with Jedi. It names
the four parts of the lookup by their placeholders, each once, and prints one report as its last
line. The messages that it reports when nothing is found are named here as well.
-/

namespace NotebookGoto.Template

/-- The report's message when Jedi cannot be imported. -/
def jediMissing : String :=
  "Jedi not installed in kernel environment. Install with: pip install jedi"

/-- The report's message when the lookup has no candidates. -/
def noDefinition : String :=
  "No definition found"

/-- The report's message when the first candidate lies in no file. -/
def noSourceFile : String :=
  "Definition found but no source file available (builtin or compiled module)"

/-- How the report's message starts when the lookup itself failed. -/
def unexpectedStart : String :=
  "Jedi error: "

/-- The name of the way in which the code is written. -/
def jediName : String :=
  "python-jedi"

/-- The lines of the code. -/
def jediLines : List String :=
  ["",
   "import sys",
   "import json",
   "",
   "_result = \x7b'file': None, 'line': None, 'error': None\x7d",
   "",
   "try:",
   "    try:",
   "        import jedi",
   "    except ImportError:",
   "        _result['error'] = 'Jedi not installed in kernel environment. Install with: pip install jedi'",
   "        raise SystemExit",
   "",
   "    _notebook_source = __NOTEBOOK_SOURCE__",
   "    _cursor_line = __CURSOR_LINE__",
   "    _cursor_column = __CURSOR_COLUMN__",
   "    _notebook_path = __NOTEBOOK_PATH__",
   "",
   "    print(f'[Jedi] Analyzing at line \x7b_cursor_line\x7d, column \x7b_cursor_column\x7d', file=sys.stderr)",
   "    print(f'[Jedi] Notebook source length: \x7blen(_notebook_source)\x7d chars', file=sys.stderr)",
   "    print(f'[Jedi] Kernel sys.path has \x7blen(sys.path)\x7d entries', file=sys.stderr)",
   "",
   "    _project = jedi.Project(path=_notebook_path, sys_path=sys.path)",
   "    _script = jedi.Script(code=_notebook_source, path=_notebook_path, project=_project)",
   "",
   "    _definitions = _script.goto(",
   "        line=_cursor_line,",
   "        column=_cursor_column,",
   "        follow_imports=True,",
   "        follow_builtin_imports=True",
   "    )",
   "",
   "    print(f'[Jedi] Found \x7blen(_definitions)\x7d definition(s)', file=sys.stderr)",
   "",
   "    if _definitions:",
   "        _defn = _definitions[0]",
   "        print(f'[Jedi] Definition: \x7b_defn.name\x7d at \x7b_defn.module_path\x7d:\x7b_defn.line\x7d', file=sys.stderr)",
   "",
   "        if _defn.module_path:",
   "            _result['file'] = str(_defn.module_path)",
   "            _result['line'] = _defn.line if _defn.line else 1",
   "        else:",
   "            _result['error'] = 'Definition found but no source file available (builtin or compiled module)'",
   "    else:",
   "        _result['error'] = 'No definition found'",
   "",
   "except SystemExit:",
   "    pass",
   "except Exception as _e:",
   "    import traceback",
   "    _result['error'] = f'Jedi error: \x7bstr(_e)\x7d'",
   "    print(f'[Jedi] Exception: \x7btraceback.format_exc()\x7d', file=sys.stderr)",
   "",
   "print(json.dumps(_result))",
   ""]

/-- The template: the lines of the code, joined by line feeds. -/
def jedi : String :=
  "\n".intercalate jediLines

end NotebookGoto.Template
