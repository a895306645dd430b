import ModalTutor.Lesson.Catalog

/-!
# The built-in tutorial

The lessons that come with the program, from first movements to edits of
program text.
-/

namespace ModalTutor

namespace Tutorial

private def texts (lines : List String) : List Text :=
  lines.map String.toList

def basicMovement : Lesson where
  id := 1
  title := "Basic Movement - hjkl"
  description :=
    "Learn the fundamental Vim movement keys"
  difficulty := .beginner
  instructions :=
    "Use h, j, k, l to move the cursor through all three targets marked with 'X'"
  initialText := texts
    ["Welcome to Vim!",
      "Move around using:",
      "h - left",
      "j - down",
      "k - up",
      "l - right",
      "",
      "First target:  X........",
      "Second target: .......X.",
      "Third target:  ...X.....",
      "Fourth target: ........X"]
  goal := .targetPosition ⟨10, 8⟩
  allowed := .ofList
    [.move .left, .move .down, .move .up, .move .right]
  hints :=
    ["Navigate to each X in order from top to bottom",
      "Use j to move down, l/h to move horizontally",
      "Final target is at row 10, column 8"]

def wordMovement : Lesson where
  id := 2
  title := "Word Movement - w, b, e"
  description :=
    "Navigate by words efficiently"
  difficulty := .beginner
  instructions :=
    "Use w (word forward), b (word back), e (end of word) to reach the target"
  initialText := texts
    ["The quick brown fox jumps over the lazy dog",
      "Navigate between words efficiently using w and b",
      "Practice moving: forward backward forward backward again",
      "Use e to reach end of words like example here",
      "The X marks your final target: here X is your goal"]
  goal := .targetPosition ⟨4, 37⟩
  allowed := .ofList
    [.move .left, .move .down, .move .up, .move .right, .move .wordForward,
     .move .wordBackward, .move .wordEnd]
  hints :=
    ["Use 'w' to jump forward by words",
      "Use 'b' to jump backward if you overshoot",
      "Use 'e' to reach the end of a word",
      "Final target is on the last line"]

def lineNavigation : Lesson where
  id := 3
  title := "Line Navigation - 0, $, ^"
  description :=
    "Jump to the beginning and end of lines"
  difficulty := .beginner
  instructions :=
    "Use 0 (start of line), $ (end of line), ^ (first non-blank) to navigate"
  initialText := texts
    ["X.......jump to the end of this line........X",
      "    Practice with indented lines too........X",
      "X...use 0 to jump to the very beginning",
      "       Use ^ for first non-blank char.....X",
      "Navigate efficiently from start to end....X"]
  goal := .targetPosition ⟨4, 42⟩
  allowed := .ofList
    [.move .left, .move .down, .move .up, .move .right, .move .wordForward,
     .move .wordBackward, .move .lineStart, .move .lineEnd,
     .move .firstNonBlank]
  hints :=
    ["Use '$' to jump to end of line, '0' to jump to start",
      "Use '^' to jump to first non-blank character on indented lines",
      "Practice navigating to different positions on each line",
      "Final target is at the end of the last line"]

def insertMode : Lesson where
  id := 4
  title := "Insert Mode - i, a, o"
  description :=
    "Learn to enter insert mode"
  difficulty := .beginner
  instructions :=
    "Add the word 'vim' in three different places using i, a, and o"
  initialText := texts
    ["Insert the magic word before this word: editor",
      "Append the magic word after this:",
      "Open a new line and type the magic word below this line"]
  goal := .targetText "vim".toList (some 3)
  allowed := .ofList
    [.move .left, .move .down, .move .up, .move .right, .move .wordForward,
     .move .wordBackward, .move .wordEnd, .move .lineStart, .move .lineEnd,
     .move .firstNonBlank, .insert, .append, .openBelow, .openAbove,
     .appendLineEnd, .insertLineStart, .escape]
  hints :=
    ["The magic word is 'vim'",
      "First: Use 'i' to insert 'vim' before 'editor' on line 1",
      "Second: Use 'A' to append 'vim' at end of line 2",
      "Third: Use 'o' to open new line and type 'vim'",
      "Remember to press ESC after each insertion"]

def deleteCommands : Lesson where
  id := 5
  title := "Delete Commands - x, dd, dw"
  description :=
    "Remove text efficiently"
  difficulty := .intermediate
  instructions :=
    "Use x (delete char), dd (delete line), dw (delete word) to clean up the text"
  initialText := texts
    ["Delete this entire line using dd",
      "Remove EXTRA WORDS from this sentence carefully",
      "Keep this line intact",
      "Delete UNNECESSARY words from here also",
      "This line should be deleted too",
      "Keep this line as well",
      "Remove single char: Xx here and here: yX"]
  goal := .targetState (texts
    ["Remove from this sentence carefully",
      "Keep this line intact",
      "Delete words from here also",
      "Keep this line as well",
      "Remove single char: x here and here: y"])
  allowed := .ofList
    [.move .left, .move .down, .move .up, .move .right, .move .wordForward,
     .move .wordBackward, .move .wordEnd, .move .lineStart, .move .lineEnd,
     .move .firstNonBlank, .deleteChar, .deleteLine, .deleteWord,
     .deleteToLineEnd]
  hints :=
    ["Use 'dd' to delete entire lines",
      "Use 'dw' to delete words",
      "Use 'x' to delete single characters",
      "Navigate carefully before deleting"]

def visualMode : Lesson where
  id := 6
  title := "Visual Mode - v, V"
  description :=
    "Select and delete text visually"
  difficulty := .intermediate
  instructions :=
    "Use visual mode to select and delete multiple words and selections"
  initialText := texts
    ["Remove the word DELETE from this line ",
      "Select and delete THESE WORDS carefully here ",
      "Keep this line intact",
      "Remove MULTIPLE WORDS HERE from this sentence ",
      "Practice visual selection DELETE THIS TOO "]
  goal := .targetState (texts
    ["Remove the word from this line",
      "Select and delete carefully here",
      "Keep this line intact",
      "Remove from this sentence",
      "Practice visual selection"])
  allowed := .ofList
    [.move .left, .move .down, .move .up, .move .right, .move .wordForward,
     .move .wordBackward, .move .wordEnd, .move .lineStart, .move .lineEnd,
     .move .firstNonBlank, .visualChar, .visualLine, .visualDelete, .deleteChar,
     .escape]
  hints :=
    ["Use 'v' to enter character-wise visual mode",
      "Use 'V' to enter line-wise visual mode",
      "Use 'w', 'b', 'h', 'l' to extend selection",
      "Press 'd' to delete the selection",
      "Remember to press ESC after deleting"]

def search : Lesson where
  id := 7
  title := "Search - /, ?, n, N"
  description :=
    "Find text quickly"
  difficulty := .intermediate
  instructions :=
    "Use / to search forward, ? backward, n for next, N for previous to find all targets"
  initialText := texts
    ["Find the word 'target' in this text",
      "The first target is here on line 1",
      "There is another target hiding on this line",
      "Keep searching: target appears multiple times",
      "You must find target everywhere in the document",
      "Navigate through each target using n and N",
      "The final target X is right here on this line",
      "Practice makes perfect with target searching"]
  goal := .targetPosition ⟨6, 11⟩
  allowed := .ofList
    [.move .left, .move .down, .move .up, .move .right, .move .wordForward,
     .move .wordBackward, .move .wordEnd, .move .lineStart, .move .lineEnd,
     .move .firstNonBlank, .searchForward, .searchBackward, .searchNext,
     .searchPrevious]
  hints :=
    ["Type '/target' and press Enter to start searching",
      "Press 'n' to jump to next match",
      "Press 'N' to go to previous match",
      "Navigate to the X on line 6",
      "You need to cycle through multiple matches"]

def undoAndRedo : Lesson where
  id := 8
  title := "Undo and Redo - u, Ctrl+r"
  description :=
    "Reverse and restore changes"
  difficulty := .intermediate
  instructions :=
    "Delete multiple lines, practice undo and redo to master time travel"
  initialText := texts
    ["Make changes and undo them",
      "Delete this line first",
      "Delete this line second",
      "Delete this line third",
      "Now undo all deletions",
      "Master time travel in Vim"]
  goal := .undoRequired
  allowed := .ofList
    [.move .left, .move .down, .move .up, .move .right, .move .wordForward,
     .move .wordBackward, .move .wordEnd, .move .lineStart, .move .lineEnd,
     .move .firstNonBlank, .undo, .redo, .deleteLine, .deleteChar, .deleteWord,
     .deleteToLineEnd]
  hints :=
    ["Step 1: Delete lines 2, 3, and 4 one by one using 'dd'",
      "Step 2: Press 'u' three times to undo all deletions",
      "Step 3: You can use Ctrl+r to redo if needed",
      "Practice undo/redo multiple times to get comfortable"]

def copyAndPaste : Lesson where
  id := 9
  title := "Copy and Paste - y, p, P"
  description :=
    "Duplicate text efficiently"
  difficulty := .intermediate
  instructions :=
    "Use y (yank), p (paste after), P (paste before) to duplicate lines and words"
  initialText := texts
    ["Copy this entire line with yy",
      "Paste it below here:",
      "",
      "Yank these words: important content here",
      "Paste words after this point:",
      "",
      "Practice copying: example text",
      "And paste before this line using P"]
  goal := .duplicateLine
  allowed := .ofList
    [.move .left, .move .down, .move .up, .move .right, .move .wordForward,
     .move .wordBackward, .move .wordEnd, .move .lineStart, .move .lineEnd,
     .move .firstNonBlank, .visualYank, .yankLine, .pasteAfter, .pasteBefore,
     .yankWord, .visualChar, .visualDelete, .escape]
  hints :=
    ["Use 'yy' to yank entire lines",
      "Use 'yw' to yank individual words",
      "Use 'p' to paste after cursor/line",
      "Use 'P' to paste before cursor/line",
      "Practice multiple yank and paste operations"]

def advancedMovement : Lesson where
  id := 10
  title := "Advanced Movement - gg, G, \x7b, \x7d"
  description :=
    "Jump to specific locations"
  difficulty := .advanced
  instructions :=
    "Use gg (top), G (bottom), \x7b (paragraph up), \x7d (paragraph down) to navigate efficiently"
  initialText := texts
    ["First line of the document - start here",
      "",
      "Second paragraph here",
      "More text in this section",
      "Continue reading this part",
      "",
      "Third paragraph begins",
      "Middle section content",
      "",
      "Fourth paragraph section",
      "More information here",
      "",
      "Fifth paragraph area",
      "",
      "Almost at the end now",
      "Find the X at the bottom X"]
  goal := .targetPosition ⟨15, 25⟩
  allowed := .ofList
    [.move .left, .move .down, .move .up, .move .right, .move .wordForward,
     .move .wordBackward, .move .wordEnd, .move .lineStart, .move .lineEnd,
     .move .firstNonBlank, .move .bufferStart, .move .bufferEnd,
     .move .paragraphBackward, .move .paragraphForward]
  hints :=
    ["Use 'gg' to jump to the top of the document",
      "Use 'G' to jump to the bottom",
      "Use '\x7d' to jump forward by paragraphs",
      "Use '\x7b' to jump backward by paragraphs",
      "Practice navigating between paragraphs multiple times",
      "Final target is at the end of the last line"]

def replace : Lesson where
  id := 11
  title := "Replace - r, R, c"
  description :=
    "Change text in place"
  difficulty := .advanced
  instructions :=
    "Use r (replace char), R (replace mode), cw (change word) to fix all errors"
  initialText := texts
    ["Replace X with O here",
      "Change bad to good: this is bad",
      "Fix these errors: X should be Y",
      "Change wrong to right in this sentence: wrong answer",
      "Replace A with B: testing A here",
      "Use Replace mode to change: WRONGWORDHERE to correct_word_here"]
  goal := .targetState (texts
    ["Replace O with O here",
      "Change bad to good: this is good",
      "Fix these errors: Y should be Y",
      "Change wrong to right in this sentence: right answer",
      "Replace A with B: testing B here",
      "Use Replace mode to change: correct_word_here to correct_word_here"])
  allowed := .ofList
    [.move .left, .move .down, .move .up, .move .right, .move .wordForward,
     .move .wordBackward, .move .wordEnd, .move .lineStart, .move .lineEnd,
     .move .firstNonBlank, .move .bufferStart, .move .bufferEnd, .replaceChar,
     .replaceMode, .changeWord, .escape, .insert, .append]
  hints :=
    ["Line 1: Use 'r' to replace X with O",
      "Line 2: Use 'cw' on 'bad' and type 'good'",
      "Line 3: Use 'r' to replace X with Y",
      "Line 4: Use 'cw' on 'wrong' and type 'right'",
      "Line 5: Use 'r' to replace A with B",
      "Line 6: Use 'R' on WRONGWORDHERE and type 'correct_word_here' (press ESC when done)"]

def marksAndJumps : Lesson where
  id := 12
  title := "Marks and Jumps - m, '"
  description :=
    "Bookmark positions"
  difficulty := .advanced
  instructions :=
    "Set 3 marks (a, b, c) and practice jumping between them"
  initialText := texts
    ["Set mark 'a' here with ma - this is position A",
      "Navigate down to the next section",
      "Set mark 'b' here with mb - this is position B",
      "Keep moving through the document",
      "Set mark 'c' here with mc - this is position C",
      "Now practice jumping between marks",
      "Jump to 'a then to 'b then to 'c",
      "Practice multiple jumps: 'a 'b 'c 'a 'c 'b",
      "Marks make navigation powerful and efficient!"]
  goal := .requiredMarks ['a', 'b', 'c']
  allowed := .ofList
    [.move .left, .move .down, .move .up, .move .right, .move .wordForward,
     .move .wordBackward, .move .wordEnd, .move .lineStart, .move .lineEnd,
     .move .firstNonBlank, .move .bufferStart, .move .bufferEnd,
     .move .paragraphBackward, .move .paragraphForward, .setMark, .jumpMark,
     .append]
  hints :=
    ["Navigate to line 1 and press 'ma' to set mark a",
      "Navigate to line 3 and press 'mb' to set mark b",
      "Navigate to line 5 and press 'mc' to set mark c",
      "Test your marks: type 'a to jump to mark a",
      "Practice jumping between marks with 'a, 'b, 'c",
      "Lesson completes when all 3 marks are set"]

def functionNavigation : Lesson where
  id := 13
  title := "Function Navigation"
  description :=
    "Navigate through code like a pro"
  difficulty := .developer
  instructions :=
    "Jump to function definitions and navigate code blocks efficiently"
  initialText := texts
    ["function calculateTotal(items) \x7b",
      "  let sum = 0;",
      "  for (let item of items) \x7b",
      "    sum += item.price;",
      "  \x7d",
      "  return sum;",
      "\x7d",
      "",
      "function processOrder(order) \x7b",
      "  const total = calculateTotal(order.items);",
      "  return \x7b ...order, total \x7d;",
      "\x7d",
      "",
      "// Navigate to the X inside processOrder",
      "// X is at the return statement"]
  goal := .targetPosition ⟨10, 9⟩
  allowed := .ofList
    [.move .left, .move .down, .move .up, .move .right, .move .wordForward,
     .move .wordBackward, .move .wordEnd, .move .lineStart, .move .lineEnd,
     .move .firstNonBlank, .move .bufferStart, .move .bufferEnd,
     .move .paragraphBackward, .move .paragraphForward, .searchForward,
     .searchBackward, .searchNext, .searchPrevious, .insert, .append,
     .openBelow, .openAbove, .appendLineEnd, .insertLineStart, .escape,
     .deleteChar, .deleteLine, .deleteWord, .deleteToLineEnd, .visualChar,
     .visualLine, .visualDelete, .undo, .redo, .visualYank, .yankLine,
     .pasteAfter, .pasteBefore, .yankWord, .replaceChar, .replaceMode,
     .changeWord, .setMark, .jumpMark]
  hints :=
    ["Use '\x7d' to jump to next code block",
      "Use '\x7b' to jump back",
      "Search for 'return' to find target quickly",
      "Practice navigating between functions"]

def refactoringVariables : Lesson where
  id := 14
  title := "Refactoring Variables"
  description :=
    "Rename variables across code"
  difficulty := .developer
  instructions :=
    "Change all instances of 'oldName' to 'newName' using search and replace techniques"
  initialText := texts
    ["const oldName = 'value';",
      "console.log(oldName);",
      "function test(oldName) \x7b",
      "  return oldName.toUpperCase();",
      "\x7d",
      "const result = test(oldName);"]
  goal := .targetState (texts
    ["const newName = 'value';",
      "console.log(newName);",
      "function test(newName) \x7b",
      "  return newName.toUpperCase();",
      "\x7d",
      "const result = test(newName);"])
  allowed := .ofList
    [.move .left, .move .down, .move .up, .move .right, .move .wordForward,
     .move .wordBackward, .move .wordEnd, .move .lineStart, .move .lineEnd,
     .move .firstNonBlank, .move .bufferStart, .move .bufferEnd,
     .move .paragraphBackward, .move .paragraphForward, .searchForward,
     .searchBackward, .searchNext, .searchPrevious, .insert, .append,
     .openBelow, .openAbove, .appendLineEnd, .insertLineStart, .escape,
     .deleteChar, .deleteLine, .deleteWord, .deleteToLineEnd, .visualChar,
     .visualLine, .visualDelete, .undo, .redo, .visualYank, .yankLine,
     .pasteAfter, .pasteBefore, .yankWord, .replaceChar, .replaceMode,
     .changeWord, .setMark, .jumpMark]
  hints :=
    ["Search for 'oldName' using /oldName",
      "Use 'cw' to change each word to 'newName'",
      "Press 'n' to jump to next occurrence",
      "Remember to press ESC after each change"]

def commentBlockEditing : Lesson where
  id := 15
  title := "Comment Block Editing"
  description :=
    "Manage code comments efficiently"
  difficulty := .developer
  instructions :=
    "Add '//' at the start of each code line to comment them out"
  initialText := texts
    ["function debugFunction() \x7b",
      "  console.log('debug 1');",
      "  console.log('debug 2');",
      "  console.log('debug 3');",
      "  return true;",
      "\x7d"]
  goal := .targetState (texts
    ["function debugFunction() \x7b",
      "//  console.log('debug 1');",
      "//  console.log('debug 2');",
      "//  console.log('debug 3');",
      "//  return true;",
      "\x7d"])
  allowed := .ofList
    [.move .left, .move .down, .move .up, .move .right, .move .wordForward,
     .move .wordBackward, .move .wordEnd, .move .lineStart, .move .lineEnd,
     .move .firstNonBlank, .move .bufferStart, .move .bufferEnd,
     .move .paragraphBackward, .move .paragraphForward, .searchForward,
     .searchBackward, .searchNext, .searchPrevious, .insert, .append,
     .openBelow, .openAbove, .appendLineEnd, .insertLineStart, .escape,
     .deleteChar, .deleteLine, .deleteWord, .deleteToLineEnd, .visualChar,
     .visualLine, .visualDelete, .undo, .redo, .visualYank, .yankLine,
     .pasteAfter, .pasteBefore, .yankWord, .replaceChar, .replaceMode,
     .changeWord, .setMark, .jumpMark]
  hints :=
    ["Navigate to line 2, use 'I' to insert at beginning",
      "Type '//' then press ESC",
      "Repeat for each line that needs commenting",
      "Use 'j' and 'I' to move efficiently between lines"]

def codeBlockDeletion : Lesson where
  id := 16
  title := "Code Block Deletion"
  description :=
    "Remove entire code sections"
  difficulty := .developer
  instructions :=
    "Delete the entire debug section while keeping the rest of the code intact"
  initialText := texts
    ["function main() \x7b",
      "  const data = fetchData();",
      "  ",
      "  // DEBUG START",
      "  console.log('debug info');",
      "  console.log('more debug');",
      "  // DEBUG END",
      "  ",
      "  return processData(data);",
      "\x7d"]
  goal := .targetState (texts
    ["function main() \x7b",
      "  const data = fetchData();",
      "  ",
      "  ",
      "  return processData(data);",
      "\x7d"])
  allowed := .ofList
    [.move .left, .move .down, .move .up, .move .right, .move .wordForward,
     .move .wordBackward, .move .wordEnd, .move .lineStart, .move .lineEnd,
     .move .firstNonBlank, .move .bufferStart, .move .bufferEnd,
     .move .paragraphBackward, .move .paragraphForward, .searchForward,
     .searchBackward, .searchNext, .searchPrevious, .insert, .append,
     .openBelow, .openAbove, .appendLineEnd, .insertLineStart, .escape,
     .deleteChar, .deleteLine, .deleteWord, .deleteToLineEnd, .visualChar,
     .visualLine, .visualDelete, .undo, .redo, .visualYank, .yankLine,
     .pasteAfter, .pasteBefore, .yankWord, .replaceChar, .replaceMode,
     .changeWord, .setMark, .jumpMark]
  hints :=
    ["Search for 'DEBUG START' to locate the section",
      "Use 'dd' to delete lines one by one",
      "Or use 'V' to select multiple lines and 'd' to delete",
      "Keep the empty lines and function structure"]

def importStatementOrganization : Lesson where
  id := 17
  title := "Import Statement Organization"
  description :=
    "Reorder and manage imports"
  difficulty := .developer
  instructions :=
    "Move the React import to the top and add a missing import"
  initialText := texts
    ["import \x7b useState \x7d from 'react';",
      "import axios from 'axios';",
      "import React from 'react';",
      "import './styles.css';",
      "",
      "// React import should be first"]
  goal := .targetState (texts
    ["import React from 'react';",
      "import \x7b useState \x7d from 'react';",
      "import axios from 'axios';",
      "import './styles.css';",
      "",
      "// React import should be first"])
  allowed := .ofList
    [.move .left, .move .down, .move .up, .move .right, .move .wordForward,
     .move .wordBackward, .move .wordEnd, .move .lineStart, .move .lineEnd,
     .move .firstNonBlank, .move .bufferStart, .move .bufferEnd,
     .move .paragraphBackward, .move .paragraphForward, .searchForward,
     .searchBackward, .searchNext, .searchPrevious, .insert, .append,
     .openBelow, .openAbove, .appendLineEnd, .insertLineStart, .escape,
     .deleteChar, .deleteLine, .deleteWord, .deleteToLineEnd, .visualChar,
     .visualLine, .visualDelete, .undo, .redo, .visualYank, .yankLine,
     .pasteAfter, .pasteBefore, .yankWord, .replaceChar, .replaceMode,
     .changeWord, .setMark, .jumpMark]
  hints :=
    ["Navigate to line 3 (React import)",
      "Use 'dd' to cut the line",
      "Use 'gg' to go to top",
      "Use 'P' to paste before first line"]

def apiEndpointCorrection : Lesson where
  id := 18
  title := "API Endpoint Correction"
  description :=
    "Fix API endpoint strings"
  difficulty := .developer
  instructions :=
    "Change all '/api/v1/' to '/api/v2/' in the endpoint URLs"
  initialText := texts
    ["const USERS_API = '/api/v1/users';",
      "const POSTS_API = '/api/v1/posts';",
      "const AUTH_API = '/api/v1/auth';",
      "const DATA_API = '/api/v1/data';"]
  goal := .targetState (texts
    ["const USERS_API = '/api/v2/users';",
      "const POSTS_API = '/api/v2/posts';",
      "const AUTH_API = '/api/v2/auth';",
      "const DATA_API = '/api/v2/data';"])
  allowed := .ofList
    [.move .left, .move .down, .move .up, .move .right, .move .wordForward,
     .move .wordBackward, .move .wordEnd, .move .lineStart, .move .lineEnd,
     .move .firstNonBlank, .move .bufferStart, .move .bufferEnd,
     .move .paragraphBackward, .move .paragraphForward, .searchForward,
     .searchBackward, .searchNext, .searchPrevious, .insert, .append,
     .openBelow, .openAbove, .appendLineEnd, .insertLineStart, .escape,
     .deleteChar, .deleteLine, .deleteWord, .deleteToLineEnd, .visualChar,
     .visualLine, .visualDelete, .undo, .redo, .visualYank, .yankLine,
     .pasteAfter, .pasteBefore, .yankWord, .replaceChar, .replaceMode,
     .changeWord, .setMark, .jumpMark]
  hints :=
    ["Search for 'v1' using /v1",
      "Use 'r' twice to replace 'v1' with 'v2'",
      "Or use 'cw' to change the word",
      "Use 'n' to jump to next occurrence"]

def lessons : List Lesson :=
  [basicMovement, wordMovement, lineNavigation, insertMode, deleteCommands,
   visualMode, search, undoAndRedo, copyAndPaste, advancedMovement, replace,
   marksAndJumps, functionNavigation, refactoringVariables, commentBlockEditing,
   codeBlockDeletion, importStatementOrganization, apiEndpointCorrection]

end Tutorial

def Catalog.builtin : Except LessonError Catalog :=
  Catalog.ofLessons Tutorial.lessons

end ModalTutor
